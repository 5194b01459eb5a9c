import TxDispatch.Ledger.Scripted
import TxDispatch.Proofs.Journal

namespace TxDispatch.Proofs

open Scene

variable {σ : Type}

/-- A round that was lost to a conflict: the account that its envelope was signed for, the answer to
the broadcast, and the rest after it. -/
structure Lost where
  info : AccountInfo
  envelope : Envelope
  receipt : Receipt
  ms : UInt64

/-- A lost round as a journal holds it: the account is looked up directly before the broadcast. -/
def Lost.contacts (address : String) (x : Lost) : List Contact :=
  [.looked address (.ok x.info), .sent x.envelope (.ok x.receipt), .rested x.ms]

/-- The last round of a submission that lost all rounds before it, when it is the `k`th of `budget`:
what is heard in it and the result of the submission. -/
inductive Ending (s : Session) (order : Order) (budget : Nat) (k : UInt32) :
    List Contact → Except Failure Submission → Prop where
  | unanswered (f : Failure) :
      Ending s order budget k [.looked s.wallet.account (.error f)] (.error f)
  | unsent (info : AccountInfo) (e : Envelope) (f : Failure) :
      Ending s order budget k [.looked s.wallet.account (.ok info), .sent e (.error f)] (.error f)
  | exhausted (info : AccountInfo) (e : Envelope) (r : Receipt)
      (conflict : r.verdict s.conflictCodes = .conflict) (spent : k.toNat = budget) :
      Ending s order budget k [.looked s.wallet.account (.ok info), .sent e (.ok r)]
        (.error (.retryExhausted k))
  | rejected (info : AccountInfo) (e : Envelope) (r : Receipt)
      (failed : r.verdict s.conflictCodes = .failed r.code r.codespace r.rawLog) :
      Ending s order budget k [.looked s.wallet.account (.ok info), .sent e (.ok r)]
        (.error (.rejected order.operation.kind.label r.code r.codespace r.rawLog r.txhash))
  | missing (info : AccountInfo) (e : Envelope) (r : Receipt) (t : Target)
      (success : r.verdict s.conflictCodes = .succeeded) (target : order.target = some t)
      (absent : r.eventLog.extract? t = none) :
      Ending s order budget k [.looked s.wallet.account (.ok info), .sent e (.ok r)]
        (.error (.missingEvent r.txhash t.eventType t.attributeKey))
  | found (info : AccountInfo) (e : Envelope) (r : Receipt) (t : Target) (value : String)
      (success : r.verdict s.conflictCodes = .succeeded) (target : order.target = some t)
      (present : r.eventLog.extract? t = some value) :
      Ending s order budget k [.looked s.wallet.account (.ok info), .sent e (.ok r)]
        (.ok ⟨r.txhash, r.height, r.gasUsed, k, some value⟩)
  | untargeted (info : AccountInfo) (e : Envelope) (r : Receipt)
      (success : r.verdict s.conflictCodes = .succeeded) (target : order.target = none) :
      Ending s order budget k [.looked s.wallet.account (.ok info), .sent e (.ok r)]
        (.ok ⟨r.txhash, r.height, r.gasUsed, k, none⟩)

/-- A success is reported with the value at the target, and is a failure without it. -/
theorem ending_conclude {s : Session} {order : Order} {budget : Nat} {k : UInt32}
    {r : Receipt} (info : AccountInfo) (e : Envelope)
    (success : r.verdict s.conflictCodes = .succeeded) :
    Ending s order budget k [.looked s.wallet.account (.ok info), .sent e (.ok r)]
      (Session.conclude order.target k r) := by
  obtain ⟨ht, h⟩ | ⟨t, ht, hx, h⟩ | ⟨t, value, ht, hx, h⟩ := conclude_cases order.target k r
  · exact h ▸ .untargeted info e r success ht
  · exact h ▸ .missing info e r t success ht hx
  · exact h ▸ .found info e r t value success ht hx

theorem conclude_error {target : Option Target} {attempts : UInt32} {r : Receipt} {f : Failure}
    (h : Session.conclude target attempts r = .error f) :
    ∃ eventType key, f = .missingEvent r.txhash eventType key := by
  obtain ⟨_, hc⟩ | ⟨t, _, _, hc⟩ | ⟨_, _, _, _, hc⟩ := conclude_cases target attempts r
  · cases hc.symm.trans h
  · exact ⟨_, _, Except.error.inj (h.symm.trans hc)⟩
  · cases hc.symm.trans h

theorem conclude_unexhausted (target : Option Target) (attempts : UInt32) (r : Receipt)
    (spent : UInt32) :
    Session.conclude target attempts r ≠ .error (.retryExhausted spent) := by
  intro h
  obtain ⟨eventType, key, hf⟩ := conclude_error h
  cases hf

/-- Rounds that go on once `k` broadcasts are made: some are lost to conflicts, and one more decides
the result. The places of the rounds are counted from the start of the submission. -/
def Concluded (s : Session) (order : Order) (budget k : Nat) (heard : List Contact)
    (result : Except Failure Submission) : Prop :=
  ∃ (lost : List Lost) (last : List Contact) (j : UInt32),
    heard = lost.flatMap (Lost.contacts s.wallet.account) ++ last ∧
    (∀ x ∈ lost, x.receipt.verdict s.conflictCodes = .conflict) ∧
    j.toNat = k + lost.length + 1 ∧ j.toNat ≤ budget ∧ Ending s order budget j last result

/-- A round that ends the submission has no lost rounds before it. -/
theorem Ending.concluded {s : Session} {order : Order} {k : Nat} {heard : List Contact}
    {result : Except Failure Submission} (hk : k < s.backoff.maxAttempts.toNat)
    (h : Ending s order s.backoff.maxAttempts.toNat (.ofNat (k + 1)) heard result) :
    Concluded s order s.backoff.maxAttempts.toNat k heard result := by
  have hplace : (UInt32.ofNat (k + 1)).toNat = k + 1 := made_toNat hk
  exact ⟨[], heard, .ofNat (k + 1), rfl, by simp, hplace, by rw [hplace]; exact hk, h⟩

/-- A round that is lost to a conflict comes in front of the rounds that go on after it. -/
theorem Concluded.lose {s : Session} {order : Order} {budget k : Nat} {info : AccountInfo}
    {e : Envelope} {r : Receipt} {ms : UInt64} {heard : List Contact}
    {result : Except Failure Submission} (conflict : r.verdict s.conflictCodes = .conflict)
    (h : Concluded s order budget (k + 1) heard result) :
    Concluded s order budget k
      (.looked s.wallet.account (.ok info) :: .sent e (.ok r) :: .rested ms :: heard) result := by
  obtain ⟨lost, last, j, rfl, hlost, hplace, hle, hend⟩ := h
  refine ⟨⟨info, e, r, ms⟩ :: lost, last, j, rfl, ?_, ?_, hle, hend⟩
  · intro x hx
    rcases List.mem_cons.mp hx with rfl | hx
    · exact conflict
    · exact hlost x hx
  · rw [hplace, List.length_cons]
    omega

/-- The course of an order that may be signed is concluded. -/
theorem Course.concluded {c : Client σ} {s : Session} {order : Order} {k : Nat} {n n' : Counters}
    {l l' : σ} {heard : List Contact} {result : Except Failure Submission}
    (fee : order.fee.check = .ok ()) (operation : order.operation.check = .ok ())
    (h : Course c s order k n l heard result n' l') (hk : k < s.backoff.maxAttempts.toNat) :
    Concluded s order s.backoff.maxAttempts.toNat k heard result := by
  induction h with
  | unanswered _ => exact Ending.concluded hk (.unanswered _)
  | refused _ refusal => exact absurd refusal (sealed_ne_error fee operation)
  | unsent _ => exact Ending.concluded hk (.unsent _ _ _)
  | rejected _ failed => exact Ending.concluded hk (.rejected _ _ _ failed)
  | succeeded _ success => exact Ending.concluded hk (ending_conclude _ _ success)
  | exhausted _ conflict spent =>
    exact Ending.concluded hk (.exhausted _ _ _ conflict ((made_toNat hk).trans spent))
  | again _ conflict left _ ih => exact .lose conflict (ih left)

/-- A budget of no broadcasts counts as one. -/
theorem budget_toNat (attempts : UInt32) (base cap : UInt64) :
    (Backoff.of attempts base cap).maxAttempts.toNat = max 1 attempts.toNat := by
  rw [Backoff.of_maxAttempts]
  split
  · rename_i hpos
    have hnat := UInt32.lt_iff_toNat_lt.mp hpos
    rw [UInt32.toNat_zero] at hnat
    omega
  · rename_i hzero
    have hnat := mt UInt32.lt_iff_toNat_lt.mpr hzero
    rw [UInt32.toNat_zero] at hnat
    rw [UInt32.toNat_one]
    omega

/-- Every submission of an order that may be signed loses some rounds to conflicts, fewer than its
budget, and has one more, which decides its result. -/
theorem submit_outcome (c : Client σ) (order : Order) (s : Scene σ) (attempts : UInt32)
    (base cap : UInt64) (policy : s.session.backoff = .of attempts base cap)
    (fee : order.fee.check = .ok ()) (operation : order.operation.check = .ok ()) :
    ∃ (lost : List Lost) (last : List Contact) (k : UInt32),
      Leads c s (lost.flatMap (Lost.contacts s.session.wallet.account) ++ last)
        (submit c order s).2 ∧
      (∀ x ∈ lost, x.receipt.verdict s.session.conflictCodes = .conflict) ∧
      k.toNat = lost.length + 1 ∧ k.toNat ≤ max 1 attempts.toNat ∧
      Ending s.session order (max 1 attempts.toNat) k last (submit c order s).1 := by
  obtain ⟨heard, n', hj, _, hcourse⟩ := submit_course c order s
  have hbudget : s.session.backoff.maxAttempts.toNat = max 1 attempts.toNat := by
    rw [policy, budget_toNat]
  obtain ⟨lost, last, k, rfl, hlost, hcount, hle, hend⟩ :=
    hcourse.concluded fee operation (by omega)
  rw [hbudget] at hle hend
  exact ⟨lost, last, k, ⟨hj, hcourse.dealt⟩, hlost, by omega, hle, hend⟩

def leastSession : Session where
  wallet := { key := ⟨1, by decide, by decide⟩, account := "terra1", chainId := "localterra" }
  backoff := .of 3 0 0

def leastOrder : Order := ⟨.storeCode [0], ⟨1, [⟨1, "uusd"⟩]⟩, none⟩

def leastScene (script : List (Except Failure Receipt)) : Scene Scripted :=
  ⟨leastSession, { ledger := { chainId := "localterra", script } }⟩

theorem submit_outcome_after_mismatch :
    let s := leastScene [.ok Scripted.mismatch, .ok (Scripted.success 1 [])]
    s.session.backoff = .of 3 0 0 ∧ leastOrder.fee.check = .ok () ∧
    leastOrder.operation.check = .ok () ∧
    ∃ (lost : List Lost) (last : List Contact) (k : UInt32),
      Leads Scripted.client s (lost.flatMap (Lost.contacts "terra1") ++ last)
        (submit Scripted.client leastOrder s).2 ∧
      (∀ x ∈ lost, x.receipt.verdict [] = .conflict) ∧
      k.toNat = lost.length + 1 ∧ k.toNat ≤ 3 ∧
      Ending s.session leastOrder 3 k last (submit Scripted.client leastOrder s).1 :=
  ⟨rfl, rfl, rfl, submit_outcome Scripted.client leastOrder _ 3 0 0 rfl rfl rfl⟩

end TxDispatch.Proofs
