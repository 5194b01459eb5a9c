import TxDispatch.Envelope
import TxDispatch.Receipt

namespace TxDispatch

/-- An answer that takes a while. A caller that does not wait for it leaves the ledger in the state
`dropped`. -/
structure Pending (σ α : Type) where
  /-- The milliseconds until the answer is there. -/
  wait : Nat
  answer : Except Failure α
  answered : σ
  dropped : σ

structure Client (σ : Type) where
  /-- Broadcasts an envelope and waits for the ledger's answer. -/
  broadcast : Envelope → σ → Pending σ Receipt
  /-- Looks up the account of an address. -/
  account : String → σ → Except Failure AccountInfo × σ
  /-- Asks for the chain that the ledger belongs to. -/
  chainId : σ → Except Failure String × σ
  /-- Asks a contract, without a transaction. -/
  query : String → Json → σ → Except Failure Json × σ

end TxDispatch
