import TxDispatch.Ledger.Client

namespace TxDispatch

/-- A ledger with the views and the waits that stand in front of it, the next ones first. -/
structure Staged (σ : Type) where
  inner : σ
  views : List (Except Failure AccountInfo) := []
  stalls : List Nat := []

namespace Staged

/-- Takes the next view, or else asks the ledger. -/
def account {σ : Type} (c : Client σ) (address : String) (s : Staged σ) :
    Except Failure AccountInfo × Staged σ :=
  match s.views with
  | view :: rest => (view, { s with views := rest })
  | [] => ((c.account address s.inner).1, { s with inner := (c.account address s.inner).2 })

/-- Waits as long as the next stall says. A caller that gives up before has used up the stall, and
the ledger has not heard of the envelope. -/
def broadcast {σ : Type} (c : Client σ) (e : Envelope) (s : Staged σ) : Pending (Staged σ) Receipt :=
  let stall := s.stalls.headD 0
  let reached := c.broadcast e s.inner
  let waiting := { s with stalls := s.stalls.tail }
  ⟨stall + reached.wait, reached.answer, { waiting with inner := reached.answered }, waiting⟩

def client {σ : Type} (c : Client σ) : Client (Staged σ) where
  broadcast := broadcast c
  account := account c
  chainId s := ((c.chainId s.inner).1, { s with inner := (c.chainId s.inner).2 })
  query contract msg s :=
    ((c.query contract msg s.inner).1, { s with inner := (c.query contract msg s.inner).2 })

end Staged

end TxDispatch
