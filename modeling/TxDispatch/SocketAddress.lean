import TxDispatch.IpAddress

namespace TxDispatch

open Text IpAddress
open Text.Reader (given)

inductive SocketAddress where
  | v4 (octets : List Nat) (port : Nat)
  | v6 (groups : List Nat) (scope : Nat) (port : Nat)
deriving DecidableEq, Repr

namespace SocketAddress

def port : Reader Nat := fun cs => do decimal 65536 false (← given ':' cs).2

/-- Reads a scope, which is a number after a percent sign; without one it is zero. -/
def scope (cs : List Char) : Nat × List Char :=
  match cs with
  | '%' :: rest => (decimal UInt32.size false rest).getD (0, cs)
  | _ => (0, cs)

def v4? : Reader SocketAddress := fun cs => do
  let (os, cs) ← octets cs
  let (p, cs) ← port cs
  return (.v4 os p, cs)

def v6? : Reader SocketAddress := fun cs => do
  let ((), cs) ← given '[' cs
  let (gs, cs) ← address6 cs
  let (s, cs) := scope cs
  let ((), cs) ← given ']' cs
  let (p, cs) ← port cs
  return (.v6 gs s p, cs)

def parse? (s : String) : Option SocketAddress :=
  match (v4? s.toList).orElse fun _ => v6? s.toList with
  | some (a, []) => some a
  | _ => none

end SocketAddress

end TxDispatch
