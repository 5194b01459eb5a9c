import TxDispatch.Wallet

namespace TxDispatch

structure Handle where
  key : Key
  account : String
  chainId : String
  numberAt : Nat
  sequenceAt : Nat

inductive Deed where
  | observe (info : AccountInfo)
  | reset (info : AccountInfo)
  | advance (used : UInt64)
  | sign (digest : List UInt8)
  /-- Makes a new handle, under another account name if one is given. -/
  | clone (account : Option String)
  | rename (account : String)

/-- Handles with the memory that their counters stand in. -/
structure Family where
  memory : List UInt64
  handles : List Handle

namespace Family

structure Step where
  handle : Nat
  deed : Deed

def ofWallet (w : Wallet) : Family :=
  ⟨[w.accountNumber, w.sequence], [⟨w.key, w.account, w.chainId, 0, 1⟩]⟩

def load (f : Family) (place : Nat) : UInt64 := f.memory.getD place 0

def store (f : Family) (place : Nat) (n : UInt64) : Family :=
  { f with memory := f.memory.set place n }

def raise (f : Family) (place : Nat) (n : UInt64) : Family := f.store place (max (f.load place) n)

def counters (f : Family) (h : Handle) : Counters := ⟨f.load h.numberAt, f.load h.sequenceAt⟩

def act (f : Family) (i : Nat) (h : Handle) : Deed → Family
  | .observe info => (f.store h.numberAt info.accountNumber).raise h.sequenceAt info.sequence
  | .reset info => (f.store h.numberAt info.accountNumber).store h.sequenceAt info.sequence
  | .advance used => f.raise h.sequenceAt (Counters.after used)
  | .sign _ => f
  | .clone account =>
    { f with handles := f.handles ++ [{ h with account := account.getD h.account }] }
  | .rename account => { f with handles := f.handles.set i { h with account } }

/-- The state after a step. Nothing is done through a handle that is not there. -/
def step (f : Family) (s : Step) : Family :=
  match f.handles[s.handle]? with
  | none => f
  | some h => f.act s.handle h s.deed

/-- What a step gives back: a signature, if one was asked for. -/
def answer? (f : Family) (s : Step) : Option (List UInt8) :=
  match s.deed with
  | .sign digest => f.handles[s.handle]?.map fun h => h.key.sign digest
  | _ => none

/-- What each handle shows: its account, the account number and the sequence. -/
def view (f : Family) : List (String × UInt64 × UInt64) :=
  f.handles.map fun h => (h.account, f.load h.numberAt, f.load h.sequenceAt)

def run (w : Wallet) (steps : List Step) : Family := steps.foldl step (ofWallet w)

end Family

end TxDispatch
