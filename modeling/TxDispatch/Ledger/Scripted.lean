import TxDispatch.Ledger.Client

namespace TxDispatch

open Text

structure Scripted where
  chainId : String
  /-- Envelopes with another sequence than the account's are refused. -/
  enforcing : Bool := false
  account : AccountInfo := ⟨1, 0⟩
  /-- The answers to come, the next one first. -/
  script : List (Except Failure Receipt) := []
  /-- The envelopes that were broadcast, the first one first. -/
  broadcasts : List Envelope := []
  /-- What each contract answers to a query. -/
  contracts : List (String × Json) := []
  nextHeight : UInt64 := 1

namespace Scripted

def mismatch : Receipt := { code := 4, codespace := "sdk", rawLog := mismatchLog }

def push (s : Scripted) (answer : Except Failure Receipt) : Scripted :=
  { s with script := s.script ++ [answer] }

/-- A transaction hash made of a height: its hexadecimal digits in upper case, 64 of them. -/
def hashOfHeight (height : UInt64) : String :=
  String.ofList ((Hex.encode (Crypto.bytesOfNat 32 height.toNat)).map Char.toUpper)

def success (height : UInt64) (events : List Event) : Receipt where
  height := height
  txhash := hashOfHeight height
  logs := some [⟨0, "", events⟩]

/-- Adds a success to the script; each has a height of its own. -/
def pushSuccess (s : Scripted) (events : List Event) : Scripted :=
  { s with nextHeight := s.nextHeight + 1 }.push (.ok (success s.nextHeight events))

def pushMismatch (s : Scripted) : Scripted := s.push (.ok mismatch)

/-- Moves the account's sequence, as another writer would. -/
def setSequence (s : Scripted) (sequence : UInt64) : Scripted :=
  { s with account := { s.account with sequence } }

def setContract (s : Scripted) (contract : String) (answer : Json) : Scripted :=
  { s with contracts := (contract, answer) :: s.contracts.filter fun c => c.1 != contract }

/-- Whether a result uses up a sequence: it is no mismatch, and it succeeded or is in a block. -/
def consumes (r : Receipt) : Bool := r.rawLog != mismatchLog && (!r.isError || r.isIncluded)

def settle (s : Scripted) (r : Receipt) : Scripted :=
  if consumes r then s.setSequence (s.account.sequence + 1) else s

def receive (s : Scripted) (e : Envelope) : Except Failure Receipt × Scripted :=
  let s := { s with broadcasts := s.broadcasts ++ [e] }
  if s.enforcing && e.sequence != s.account.sequence then (.ok mismatch, s)
  else match s.script with
    | [] => (.error (.rpc "mock ledger has no scripted response"), s)
    | .error f :: rest => (.error f, { s with script := rest })
    | .ok r :: rest => (.ok r, { s with script := rest }.settle r)

def ask (s : Scripted) (contract : String) : Except Failure Json :=
  match s.contracts.find? fun c => c.1 == contract with
  | some c => .ok c.2
  | none => .error (.rpc ("HTTP 404 Not Found: contract " ++ contract ++ " not found"))

/-- The calls to a scripted ledger; they answer at once. -/
def client : Client Scripted where
  broadcast e s := ⟨0, (s.receive e).1, (s.receive e).2, s⟩
  account _ s := (.ok s.account, s)
  chainId s := (.ok s.chainId, s)
  query contract _ s := (s.ask contract, s)

theorem receive_broadcasts (s : Scripted) (e : Envelope) :
    (s.receive e).2.broadcasts = s.broadcasts ++ [e] := by
  unfold receive
  simp only
  split
  · rfl
  · split
    · rfl
    · rfl
    · unfold settle setSequence
      split <;> rfl

end Scripted

end TxDispatch
