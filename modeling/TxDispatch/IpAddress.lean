import TxDispatch.Text.Digits
import TxDispatch.Text.Hex
import TxDispatch.Text.Reader

namespace TxDispatch.IpAddress

open Text
open Text.Reader (given)

/-- Reads a decimal number below a bound. An octet has at most three digits and no leading zero. -/
def decimal (bound : Nat) (octet : Bool) : Reader Nat := fun cs =>
  let ds := cs.takeWhile Char.isDigit
  let n := Digits.value ds
  if ds.isEmpty || bound ≤ n then none
  else if octet && (3 < ds.length || (ds.head? == some '0' && 1 < ds.length)) then none
  else some (n, cs.dropWhile Char.isDigit)

def group : Reader Nat := fun cs =>
  let ds := cs.takeWhile fun c => (Hex.worth? c).isSome
  if ds.isEmpty || 4 < ds.length then none
  else some (ds.foldl (fun n c => 16 * n + (Hex.worth? c).getD 0) 0, cs.drop ds.length)

def octets : Reader (List Nat) := fun cs => do
  let (a, cs) ← decimal 256 true cs
  let (b, cs) ← decimal 256 true (← given '.' cs).2
  let (c, cs) ← decimal 256 true (← given '.' cs).2
  let (d, cs) ← decimal 256 true (← given '.' cs).2
  return ([a, b, c, d], cs)

/-- Reads up to `limit` groups with colons between them, the first of which needs a colon before it
unless it is `first`. The last two may be written as four octets, which the flag tells. -/
def groups (first : Bool) : (limit : Nat) → List Char → List Nat × Bool × List Char
  | 0, cs => ([], false, cs)
  | limit + 1, cs =>
    match if first then some cs else (given ':' cs).map Prod.snd with
    | none => ([], false, cs)
    | some rest =>
      match if limit = 0 then none else octets rest with
      | some ([a, b, c, d], rest) => ([256 * a + b, 256 * c + d], true, rest)
      | _ =>
        match group rest with
        | none => ([], false, cs)
        | some (g, rest) =>
          let (gs, embedded, rest) := groups false limit rest
          (g :: gs, embedded, rest)

/-- Reads eight groups, or fewer with a double colon that stands for at least one group of zero. -/
def address6 : Reader (List Nat) := fun cs =>
  let (head, embedded, cs) := groups true 8 cs
  if head.length = 8 then some (head, cs)
  else if embedded then none
  else do
    let ((), cs) ← given ':' cs
    let ((), cs) ← given ':' cs
    let (tail, _, cs) := groups true (7 - head.length) cs
    return (head ++ List.replicate (8 - head.length - tail.length) 0 ++ tail, cs)

end TxDispatch.IpAddress
