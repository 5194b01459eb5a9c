import TxDispatch.Ledger.Staged
import TxDispatch.Proofs.Outcomes

namespace TxDispatch.Proofs

open Scene

variable {σ : Type}

/-- An envelope that a session signed for an order with the given account state. -/
structure SignedFor (s : Session) (order : Order) (number sequence : UInt64) (e : Envelope) :
    Prop where
  accountNumber : e.accountNumber = number
  sequence : e.sequence = sequence
  sender : e.sender = s.wallet.account
  chainId : e.chainId = s.wallet.chainId
  memo : e.memo = s.memo
  publicKey : e.publicKey = s.wallet.key.publicKey
  operation : e.operation = order.operation
  fee : e.fee = order.fee
  signature : e.signature = s.wallet.key.sign (Crypto.Keccak.hash256 e.signBytes)

theorem sealed_signedFor {s : Session} {order : Order} {n : Counters} {e : Envelope}
    (h : sealed s order n = .ok e) : SignedFor s order n.accountNumber n.sequence e := by
  unfold sealed Envelope.build at h
  split at h
  · cases h
  · split at h
    · cases h
    · cases h
      exact ⟨rfl, rfl, rfl, rfl, rfl, rfl, rfl, rfl, rfl⟩

/-- The envelopes of a submission are for its operation, with its fee. -/
theorem Course.requested {c : Client σ} {s : Session} {order : Order} {k : Nat} {n n' : Counters}
    {l l' : σ} {heard : List Contact} {result : Except Failure Submission}
    (h : Course c s order k n l heard result n' l') :
    ∀ e ∈ envelopes heard, e.operation = order.operation ∧ e.fee = order.fee := by
  intro e he
  obtain ⟨m, hsealed⟩ := h.signed e he
  have hsigned := sealed_signedFor hsealed
  exact ⟨hsigned.operation, hsigned.fee⟩

/-- Every broadcast of a submission is signed for the account as it was looked up directly before.
Only the first takes the wallet's sequence if that is ahead; a later one follows the ledger down. -/
theorem sent_signedFor (c : Client σ) (order : Order) (s : Scene σ) (before after : List Contact)
    (e : Envelope) (answer : Except Failure Receipt)
    (journal : (submit c order s).2.world.journal =
      s.world.journal ++ (before ++ .sent e answer :: after)) :
    ∃ earlier info, before = earlier ++ [.looked s.session.wallet.account (.ok info)] ∧
      SignedFor s.session order info.accountNumber
        (if envelopes earlier = [] then max s.session.wallet.sequence info.sequence
          else info.sequence) e := by
  obtain ⟨heard, n', hj, _, hcourse⟩ := submit_course c order s
  rw [journal] at hj
  obtain ⟨earlier, info, n₁, l₁, m, l₂, rfl, hfirst, htry, _⟩ :=
    hcourse.at_sent (List.append_cancel_left hj).symm
  refine ⟨earlier, info, rfl, ?_⟩
  have hsigned := sealed_signedFor htry.signed
  rw [htry.counters] at hsigned
  by_cases hnone : envelopes earlier = []
  · rw [hfirst hnone] at hsigned
    simpa [hnone, adopted, Counters.observe, Wallet.sequence] using hsigned
  · have hpos := List.length_pos_iff.mpr hnone
    simpa [hnone, hpos, adopted, Counters.reset] using hsigned

def fallingScene : Scene (Staged Scripted) :=
  ⟨leastSession, { ledger := {
    inner := { chainId := "localterra", script := [.ok Scripted.mismatch, .ok (Scripted.success 1 [])] }
    views := [.ok ⟨1, 10⟩, .ok ⟨2, 5⟩] } }⟩

theorem sent_signedFor_again :
    ∃ before e answer, (submit (Staged.client Scripted.client) leastOrder
        fallingScene).2.world.journal = [] ++ (before ++ .sent e answer :: []) ∧
      ∃ earlier info, before = earlier ++ [.looked "terra1" (.ok info)] ∧
        SignedFor leastSession leastOrder info.accountNumber
          (if envelopes earlier = [] then max 0 info.sequence else info.sequence) e :=
  ⟨[_, _, _, _], _, _, rfl, sent_signedFor (Staged.client Scripted.client) leastOrder fallingScene
    [_, _, _, _] [] _ _ rfl⟩

/-- Nothing is broadcast after an answer that a block holds. -/
def AppliesOnce (heard : List Contact) : Prop :=
  ∀ before e r after, heard = before ++ .sent e (.ok r) :: after → r.isIncluded = true →
    envelopes after = []

/-- A course that is not cut off by a failed lookup broadcasts, if its order may be signed. -/
theorem Course.silent_iff {c : Client σ} {s : Session} {order : Order} {k : Nat}
    {n n' : Counters} {l l' : σ} {heard : List Contact} {result : Except Failure Submission}
    (signable : ∃ m e, sealed s order m = .ok e) (h : Course c s order k n l heard result n' l') :
    envelopes heard = [] ↔ ∃ f, heard = [.looked s.wallet.account (.error f)] := by
  cases h with
  | unanswered _ => simp
  | refused _ refusal =>
    obtain ⟨m, hm⟩ := signable
    obtain ⟨e, he⟩ := sealed_eq_ok_iff.mpr (sealed_eq_ok_iff.mp hm)
    rw [he] at refusal
    cases refusal
  | unsent _ | rejected _ _ | succeeded _ _ | exhausted _ _ _ | again _ _ _ _ => simp

/-- Which answers are the last of a submission. -/
theorem Course.last_iff {c : Client σ} {s : Session} {order : Order} {n n' : Counters} {l l' : σ}
    {heard before after : List Contact} {result : Except Failure Submission} {e : Envelope}
    {r : Receipt} (h : Course c s order 0 n l heard result n' l')
    (hs : heard = before ++ .sent e (.ok r) :: after) :
    envelopes after = [] ↔ (r.verdict s.conflictCodes = .conflict →
      (envelopes before).length + 1 = s.backoff.maxAttempts.toNat ∨
        ∃ ms f, after = [.rested ms, .looked s.wallet.account (.error f)]) := by
  obtain ⟨earlier, info, n₁, l₁, m, l₂, rfl, _, htry, honward⟩ := h.at_sent hs
  cases honward with
  | ended last =>
    simp only [envelopes_nil, true_iff]
    intro hv
    left
    simpa using last r rfl hv
  | again conflict left rest =>
    have hne : ¬ (envelopes earlier).length + 1 = s.backoff.maxAttempts.toNat := by omega
    simp [conflict, hne, rest.silent_iff ⟨m, e, htry.signed⟩]

/-- A submission broadcasts nothing after an answer that a block holds if and only if each such answer
is no conflict, or uses up the budget, or is followed by a failed lookup. -/
theorem appliesOnce_iff (c : Client σ) (order : Order) (s : Scene σ) :
    ∃ heard, Leads c s heard (submit c order s).2 ∧
      (AppliesOnce heard ↔
        ∀ before e r after, heard = before ++ .sent e (.ok r) :: after → r.isIncluded = true →
          r.verdict s.session.conflictCodes = .conflict →
          (envelopes before).length + 1 = s.session.backoff.maxAttempts.toNat ∨
            ∃ ms f, after = [.rested ms, .looked s.session.wallet.account (.error f)]) := by
  obtain ⟨heard, n', hj, _, hcourse⟩ := submit_course c order s
  refine ⟨heard, ⟨hj, hcourse.dealt⟩, ?_⟩
  constructor
  · intro h before e r after hs included
    exact (hcourse.last_iff hs).mp (h before e r after hs included)
  · intro h before e r after hs included
    exact (hcourse.last_iff hs).mpr (h before e r after hs included)

def tolerantScene (script : List (Except Failure Receipt)) : Scene Scripted :=
  { leastScene script with session := { leastSession with conflictCodes := [⟨"sdk", 32⟩] } }

/-- A transaction that failed with that code in a block is signed and broadcast again. -/
theorem not_appliesOnce_of_conflictCode :
    ¬ AppliesOnce (submit Scripted.client leastOrder
      (tolerantScene [.ok { height := 7, code := 32, codespace := "sdk" },
        .ok (Scripted.success 8 [])])).2.world.journal := by
  intro h
  have hlast := h [_] _ _ _ rfl rfl
  cases hlast

end TxDispatch.Proofs
