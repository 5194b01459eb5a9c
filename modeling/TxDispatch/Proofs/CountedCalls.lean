import TxDispatch.Proofs.ReportedSuccess
import TxDispatch.Proofs.Tallies

namespace TxDispatch.Proofs

open Scene

variable {σ : Type}

/-- That of all counters of submissions one has grown, and by one. -/
structure Grew (before after : List Metric) (kind : Operation.Kind) (outcome : Outcome) : Prop where
  own : Metric.total after (Metric.counter (.submission kind outcome)) =
    Metric.total before (Metric.counter (.submission kind outcome)) + 1
  others : ∀ kind' outcome', (kind', outcome') ≠ (kind, outcome) →
    Metric.total after (Metric.counter (.submission kind' outcome')) =
      Metric.total before (Metric.counter (.submission kind' outcome'))

theorem Grew.unique {before after : List Metric} {kind kind' : Operation.Kind}
    {outcome outcome' : Outcome} (h : Grew before after kind outcome)
    (h' : Grew before after kind' outcome') : kind' = kind ∧ outcome' = outcome := by
  have hpair : (kind', outcome') = (kind, outcome) := by
    refine Decidable.byContradiction fun hother => ?_
    have hsame := h.others kind' outcome' hother
    have hown := h'.own
    omega
  simpa using hpair

/-- A submission advances the counter of its own kind and outcome, and no other. -/
theorem submit_grew (c : Client σ) (order : Order) (s : Scene σ) :
    Grew s.world.metrics (submit c order s).2.world.metrics order.operation.kind
      (.of (submit c order s).1) := by
  obtain ⟨heard, n, _, hm, _, _⟩ := submit_counts c order s
  have htotal : ∀ kind outcome,
      Metric.total (submit c order s).2.world.metrics (Metric.counter (.submission kind outcome)) =
        Metric.total s.world.metrics (Metric.counter (.submission kind outcome)) +
          if order.operation.kind = kind ∧ Outcome.of (submit c order s).1 = outcome then 1
          else 0 := by
    intro kind outcome
    rw [Metric.total_counter, Metric.total_counter, hm, List.count_append, List.count_append,
      count_submission]
    simp [List.count_cons]
  refine ⟨by simp [htotal], ?_⟩
  intro kind outcome hother
  rw [htotal, if_neg ?_, Nat.add_zero]
  rintro ⟨rfl, rfl⟩
  exact hother rfl

theorem outcome_of_error_ne {α : Type} (f : Failure) :
    Outcome.of (.error f : Except Failure α) ≠ .succeeded := by
  cases f <;> simp [Outcome.of, Failure.isTransport]

/-- A call that uploaded code, but was given a text that is no code id. -/
def Misread (c : Client σ) (x : Call) (s : Scene σ) : Prop :=
  ∃ order done value, x.order s.session.fees = some (.ok order) ∧
    (s.submit c order).1 = .ok done ∧ order.operation.kind = .storeCode ∧
    done.value = some value ∧ codeId? value = none ∧
    x.failure? c s = some (.malformedValue done.txhash Target.codeId.attributeKey value)

/-- How a call that has submitted its order is counted. -/
structure Counted (c : Client σ) (x : Call) (s : Scene σ) (kind : Operation.Kind)
    (outcome : Outcome) : Prop where
  grew : Grew s.world.metrics (x.run c s).world.metrics kind outcome
  succeeded : outcome = .succeeded ↔ x.failure? c s = none ∨ Misread c x s
  failed : ∀ f, x.failure? c s = some f → ¬ Misread c x s →
    CountsAs (.error f : Except Failure Submission) outcome.label

/-- A submission that succeeds for an order with a target has the value. -/
theorem submit_found {c : Client σ} {order : Order} {s : Scene σ} {done : Submission}
    (ok : (submit c order s).1 = .ok done) (target : order.target.isSome = true) :
    done.value.isSome = true := by
  obtain ⟨heard, n', _, _, hcourse⟩ := submit_course c order s
  obtain ⟨before, e, r, _, hreports⟩ := hcourse.reports ok
  exact hreports.found target

/-- After a submission that failed no value is read. -/
theorem not_misread {c : Client σ} {x : Call} {s : Scene σ} {order : Order} {f : Failure}
    (ordered : x.order s.session.fees = some (.ok order)) (error : (submit c order s).1 = .error f) :
    ¬ Misread c x s := by
  rintro ⟨order', done, value, ordered', ok, _⟩
  cases ordered.symm.trans ordered'
  cases error.symm.trans ok

/-- After a submission that succeeded the value is all that a call can fail for. -/
theorem misread_of_failed {c : Client σ} {x : Call} {s : Scene σ} {kind : Operation.Kind}
    {fee : Option Fee} {order : Order} {done : Submission} {f : Failure}
    (asked : x.asked = some (kind, fee)) (ordered : x.order s.session.fees = some (.ok order))
    (own : order.operation.kind = kind) (target : kind ≠ .execute → order.target.isSome = true)
    (ok : (submit c order s).1 = .ok done) (failed : x.failure? c s = some f) :
    Misread c x s := by
  have hfailure := x.failure?_eq c s
  simp only [ordered, ok] at hfailure
  obtain ⟨hkind, value, hsome, hid, rfl⟩ :=
    Call.flaw_asked asked (fun h => submit_found ok (target h)) (hfailure.symm.trans failed)
  exact ⟨order, done, value, ordered, ok, own.trans hkind, hsome, hid, failed⟩

theorem counted_submitted {c : Client σ} {x : Call} {s : Scene σ} {kind : Operation.Kind}
    {fee : Option Fee} {order : Order} (asked : x.asked = some (kind, fee))
    (ordered : x.order s.session.fees = some (.ok order)) (own : order.operation.kind = kind)
    (target : kind ≠ .execute → order.target.isSome = true) :
    Counted c x s kind (.of (submit c order s).1) := by
  have hgrew := submit_grew c order s
  have hrun : x.run c s = (submit c order s).2 := by rw [x.run_eq, ordered]
  rw [own, ← hrun] at hgrew
  cases hresult : (submit c order s).1 with
  | error f =>
    have hfailure : x.failure? c s = some f := by simp only [x.failure?_eq, ordered, hresult]
    have hread := not_misread ordered hresult
    rw [hresult] at hgrew
    refine ⟨hgrew, by simp [hfailure, hread, outcome_of_error_ne], ?_⟩
    intro f' failed _
    cases hfailure.symm.trans failed
    exact countsAs_of _
  | ok done =>
    have hread : ∀ f, x.failure? c s = some f → Misread c x s := fun f failed =>
      misread_of_failed asked ordered own target hresult failed
    rw [hresult] at hgrew
    refine ⟨hgrew, ?_, ?_⟩
    · cases hf : x.failure? c s with
      | none => simp [Outcome.of]
      | some f => simp [Outcome.of, hread f hf]
    · intro f failed read
      exact absurd (hread f failed) read

/-- A call for a transaction that has no fee to pay fails before anything is counted. Any other is
counted once, for its kind of operation: as a success if it succeeded or if the id that it was given
cannot be read, and else by its failure. -/
theorem call_counted (c : Client σ) (x : Call) (s : Scene σ) (kind : Operation.Kind)
    (fee : Option Fee) (asked : x.asked = some (kind, fee)) :
    match feeOr fee (s.session.fees.forKind kind) with
    | .error f => x.failure? c s = some f ∧ x.run c s = s
    | .ok _ => ∃ outcome, Counted c x s kind outcome := by
  obtain ⟨make, hmake, hordered⟩ := Call.order_asked asked s.session.fees
  cases hfee : feeOr fee (s.session.fees.forKind kind) with
  | error f =>
    rw [hfee] at hordered
    exact ⟨by rw [x.failure?_eq, hordered]; rfl, by rw [x.run_eq, hordered]; rfl⟩
  | ok paid =>
    rw [hfee] at hordered
    obtain ⟨hkind, htarget⟩ := hmake paid
    exact ⟨_, counted_submitted asked hordered hkind htarget⟩

def misreadCall : Call := .deployCode [0] (some leastOrder.fee)

def misreadScene : Scene Scripted :=
  leastScene [.ok (Scripted.success 1 [⟨"store_code", [⟨"code_id", "forty-two"⟩]⟩])]

theorem call_counted_misread :
    misreadCall.asked = some (.storeCode, some leastOrder.fee) ∧
      ∃ outcome, Counted Scripted.client misreadCall misreadScene .storeCode outcome :=
  ⟨rfl, call_counted Scripted.client misreadCall misreadScene .storeCode (some leastOrder.fee) rfl⟩

/-- That one counter of submissions grows with a call, a success's exactly if the call succeeds. -/
def ToldApart (c : Client σ) (x : Call) (s : Scene σ) : Prop :=
  ∃ kind outcome, Grew s.world.metrics (x.run c s).world.metrics kind outcome ∧
    (outcome = .succeeded ↔ x.failure? c s = none)

/-- An upload that fails with an id that cannot be read counts as a success, and a call without a fee
is not counted. -/
theorem not_toldApart :
    let call : Call := .invoke "terra1contract" (.obj []) [] none
    let s : Scene Scripted := ⟨{ leastSession with fees := { execute := ⟨0, "1uusd"⟩ } },
      { ledger := { chainId := "localterra" } }⟩
    ¬ ToldApart Scripted.client misreadCall misreadScene ∧ ¬ ToldApart Scripted.client call s := by
  refine ⟨?_, ?_⟩
  · rintro ⟨kind, outcome, hgrew, htold⟩
    have hsuccess : Grew misreadScene.world.metrics
        (misreadCall.run Scripted.client misreadScene).world.metrics .storeCode .succeeded :=
      submit_grew Scripted.client ⟨.storeCode [0], leastOrder.fee, some .codeId⟩ misreadScene
    obtain ⟨rfl, rfl⟩ := hsuccess.unique hgrew
    exact absurd (htold.mp rfl) (by decide +kernel)
  · rintro ⟨kind, outcome, hgrew, _⟩
    have hown := hgrew.own
    exact Nat.succ_ne_self _ hown.symm

end TxDispatch.Proofs
