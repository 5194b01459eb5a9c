import TxDispatch.Wallet

namespace TxDispatch

/-- The handles cloned from one wallet, by their account names. -/
structure Handles where
  key : Key
  chainId : String
  counters : Counters
  accounts : List String

inductive Handles.Step where
  | observe (info : AccountInfo)
  | reset (info : AccountInfo)
  | advance (used : UInt64)
  /-- Makes a new handle, under another account name if one is given. -/
  | clone (handle : Nat) (account : Option String)
  | rename (handle : Nat) (account : String)
  | sign (digest : List UInt8)

namespace Handles

def ofWallet (w : Wallet) : Handles := ⟨w.key, w.chainId, w.counters, [w.account]⟩

/-- The state after a step. Every handle works on the one set of counters. -/
def step (h : Handles) : Step → Handles
  | .observe info => { h with counters := h.counters.observe info }
  | .reset info => { h with counters := h.counters.reset info }
  | .advance used => { h with counters := h.counters.advancePast used }
  | .clone handle account =>
    { h with accounts := h.accounts ++ [account.getD (h.accounts.getD handle "")] }
  | .rename handle account => { h with accounts := h.accounts.set handle account }
  | .sign _ => h

/-- What a step gives back: a signature, if one was asked for. -/
def answer? (h : Handles) : Step → Option (List UInt8)
  | .sign digest => some (h.key.sign digest)
  | _ => none

/-- What each handle shows: its account, the account number and the sequence. -/
def view (h : Handles) : List (String × UInt64 × UInt64) :=
  h.accounts.map fun a => (a, h.counters.accountNumber, h.counters.sequence)

theorem step_key (h : Handles) (s : Step) : (h.step s).key = h.key := by
  cases s <;> rfl

end Handles

end TxDispatch
