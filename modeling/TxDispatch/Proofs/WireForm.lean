import TxDispatch.Proofs.Outcomes
import TxDispatch.Session.Calls
import TxDispatch.Wallet.Handles

namespace TxDispatch

open Text

def Json.first? : Json → Option Json
  | arr items => items.head?
  | _ => none

/-- The document for an envelope in its wire form on a given chain, its members put in order. The
account state stands beside the first signature. -/
def SignDoc.ofWire? (chainId : String) (wire : Json) : Option Json := do
  let signature ← (← wire.get? "signatures").first?
  return .object [("account_number", ← signature.get? "account_number"),
    ("sequence", ← signature.get? "sequence"), ("chain_id", .str chainId),
    ("fee", ← wire.get? "fee"), ("memo", ← wire.get? "memo"), ("msgs", ← wire.get? "msg")]

/-- The wire form leaves out nothing of the document but the chain. -/
theorem Envelope.ofWire?_toWire (e : Envelope) :
    SignDoc.ofWire? e.chainId e.toWire = some e.signDoc.toJson := by
  have hobject : Json.object [("account_number", .str (Digits.text e.accountNumber.toNat)),
      ("sequence", .str (Digits.text e.sequence.toNat)), ("chain_id", .str e.chainId),
      ("fee", e.fee.toJson), ("memo", .str e.memo), ("msgs", .arr [e.operation.toMsg e.sender])] =
      e.signDoc.toJson := by
    simp (disch := decide) only [Json.object, List.foldl_cons, List.foldl_nil, Json.put_nil,
      Json.put_before, Json.put_after]
    rfl
  rw [← hobject]
  rfl

namespace Handles

theorem step_chainId (h : Handles) (x : Step) : (h.step x).chainId = h.chainId := by
  cases x <;> rfl

/-- No steps through the handles change what they sign with. -/
theorem foldl_step (h : Handles) (steps : List Step) :
    (steps.foldl step h).key = h.key ∧ (steps.foldl step h).chainId = h.chainId := by
  induction steps generalizing h with
  | nil => exact ⟨rfl, rfl⟩
  | cons x steps ih =>
    obtain ⟨hkey, hchain⟩ := ih (h.step x)
    exact ⟨hkey.trans (step_key h x), hchain.trans (step_chainId h x)⟩

end Handles

namespace Proofs

open Crypto Scene

/-- An envelope whose signature the handles would give again, on the bytes that its wire form and
their chain make up. -/
structure SignsWire (h : Handles) (e : Envelope) : Prop where
  signature : h.answer? (.sign (Keccak.hash256 e.signBytes)) = some e.signature
  bytes : ∃ doc, SignDoc.ofWire? h.chainId e.toWire = some doc ∧
    e.signBytes = Utf8.encode doc.render

/-- The document that is signed at building is the one that the envelope makes up later. -/
theorem build_document {memo : String} {w : Wallet} {op : Operation} {fee : Fee} {e : Envelope}
    (h : Envelope.build memo w op fee = .ok e) :
    e.chainId = w.chainId ∧ e.signature = w.key.sign (Keccak.hash256 e.signBytes) := by
  unfold Envelope.build at h
  split at h
  · cases h
  · split at h
    · cases h
    · cases h
      exact ⟨rfl, rfl⟩

/-- Building an envelope and broadcasting it leave the session as it is. -/
theorem broadcastOnce_session {σ : Type} (c : Client σ) (memo : String) (op : Operation) (fee : Fee)
    (s : Scene σ) : (s.broadcastOnce c memo op fee).2.session = s.session := by
  unfold broadcastOnce
  split <;> rfl

/-- Every envelope that is built is signed as it is sent, and stays so while the wallet goes on.
Building leaves the wallet's counters alone, whether there is an envelope or not. -/
theorem build_signsWire (memo : String) (w : Wallet) (op : Operation) (fee : Fee) :
    (∀ e, Envelope.build memo w op fee = .ok e → ∀ steps : List Handles.Step,
      SignsWire (steps.foldl Handles.step (.ofWallet w)) e) ∧
    ∀ {σ : Type} (c : Client σ) (s : Scene σ), s.session.wallet = w →
      (s.broadcastOnce c memo op fee).2.session.wallet.counters = w.counters := by
  constructor
  · intro e built steps
    obtain ⟨hchain, hsignature⟩ := build_document built
    obtain ⟨hkey, hchain'⟩ := Handles.foldl_step (.ofWallet w) steps
    constructor
    · rw [Handles.answer?, hkey, hsignature]
      rfl
    · refine ⟨e.signDoc.toJson, ?_, rfl⟩
      rw [hchain', ← e.ofWire?_toWire, hchain]
      rfl
  · intro σ c s hw
    rw [broadcastOnce_session, hw]

/-- The wallet has learned of other sequences, and still signs the document of the envelope that it
built at first. -/
theorem build_signsWire_later :
    let w := leastSession.wallet
    let op := leastOrder.operation
    let fee := leastOrder.fee
    ∃ e, Envelope.build "" w op fee = .ok e ∧
      SignsWire ([.observe ⟨9, 7⟩, .advance 7, .reset ⟨9, 3⟩].foldl Handles.step (.ofWallet w)) e ∧
      (leastScene []).session.wallet = w ∧
      ((leastScene []).broadcastOnce Scripted.client "" op fee).2.session.wallet.counters =
        w.counters := by
  intro w op fee
  obtain ⟨hsigns, hcounters⟩ := build_signsWire "" w op fee
  exact ⟨_, rfl, hsigns _ rfl _, rfl, hcounters _ _ rfl⟩

end Proofs

end TxDispatch
