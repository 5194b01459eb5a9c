import TxDispatch.Failure
import TxDispatch.Wallet.Key
import TxDispatch.Word64

namespace TxDispatch

open Json (Tree)

structure AccountInfo where
  accountNumber : UInt64
  sequence : UInt64
deriving DecidableEq, Repr

def AccountInfo.ofTree? (t : Tree) : Option AccountInfo := do
  match ← t.fields? false ["account_number", "sequence"] with
  | [accountNumber, sequence] =>
    return ⟨← Tree.required? Tree.loose64? accountNumber, ← Tree.required? Tree.loose64? sequence⟩
  | _ => none

/-- The local copy of an account's state: the sequence is that of the next envelope. -/
structure Counters where
  accountNumber : UInt64 := 0
  sequence : UInt64 := 0
deriving DecidableEq, Repr

namespace Counters

def lastSequence : UInt64 := 0xFFFFFFFFFFFFFFFF

/-- The sequence after a used one; nothing comes after the last. -/
def after (used : UInt64) : UInt64 := if used = lastSequence then used else used + 1

/-- Takes in the ledger's view. The sequence does not go back. -/
def observe (c : Counters) (info : AccountInfo) : Counters :=
  ⟨info.accountNumber, max c.sequence info.sequence⟩

def reset (_ : Counters) (info : AccountInfo) : Counters := ⟨info.accountNumber, info.sequence⟩

def advancePast (c : Counters) (used : UInt64) : Counters :=
  { c with sequence := max c.sequence (after used) }

theorem after_toNat (used : UInt64) :
    (after used).toNat = min (used.toNat + 1) (UInt64.size - 1) := by
  have hlt := used.toNat_lt_size
  unfold after lastSequence
  split
  · rename_i h; subst h; decide
  · rename_i h
    have hne : used.toNat ≠ UInt64.size - 1 := fun e =>
      h (UInt64.toNat_inj.mp (by simpa [UInt64.size] using e))
    rw [UInt64.toNat_add]
    simp only [UInt64.size] at *
    simp
    omega

end Counters

structure Wallet where
  key : Key
  /-- The address by which the ledger knows the identity. -/
  account : String
  /-- The chain that envelopes are bound to. -/
  chainId : String
  counters : Counters := {}

namespace Wallet

/-- The wallet of a key text. Its account is the address of the key. -/
def ofKeyText (text chainId : String) : Except Failure Wallet :=
  match Key.parse text with
  | .error e => .error (.wallet ("Invalid private key format: " ++ e.message))
  | .ok key => .ok { key, account := key.address, chainId }

def ofVariable (name : String) (value : Option String) (chainId : String) :
    Except Failure Wallet :=
  match value with
  | none => .error (.wallet ("Environment variable " ++ name ++ " not set"))
  | some text => ofKeyText text chainId

def withAccount (w : Wallet) (account : String) : Wallet := { w with account }

def accountNumber (w : Wallet) : UInt64 := w.counters.accountNumber

def sequence (w : Wallet) : UInt64 := w.counters.sequence

def observe (w : Wallet) (info : AccountInfo) : Wallet :=
  { w with counters := w.counters.observe info }

def reset (w : Wallet) (info : AccountInfo) : Wallet :=
  { w with counters := w.counters.reset info }

def advancePast (w : Wallet) (used : UInt64) : Wallet :=
  { w with counters := w.counters.advancePast used }

end Wallet

end TxDispatch
