import Mathlib.Algebra.GroupWithZero.Nat
import TxDispatch.Proofs.Bookkeeping
import TxDispatch.Proofs.CheckedEnvelopes

namespace TxDispatch.Proofs

open Scene

variable {σ : Type}

structure Finished where
  order : Order
  heard : List Contact
  result : Except Failure Submission

def finished? (c : Client σ) (x : Call) (s : Scene σ) : Option Finished :=
  match x.order s.session.fees with
  | some (.ok order) => some {
      order
      heard := (s.submit c order).2.world.journal.drop s.world.journal.length
      result := (s.submit c order).1 }
  | _ => none

def finished (c : Client σ) : List Call → Scene σ → List Finished
  | [], _ => []
  | x :: calls, s => (finished? c x s).toList ++ finished c calls (x.run c s)

def conflictOf (codes : List ConflictCode) (kind : Operation.Kind) : Contact → Bool
  | .sent e answer => conflicts codes (.sent e answer) && e.operation.kind == kind
  | _ => false

def isBroadcast : Contact → Bool
  | .sent _ _ => true
  | _ => false

/-- Whether the last broadcast, if there was one, ended in something else than a conflict. -/
def settles (codes : List ConflictCode) (heard : List Contact) : Bool :=
  (heard.filter isBroadcast).getLast?.any fun x => !conflicts codes x

namespace Finished

def kind (x : Finished) : Operation.Kind := x.order.operation.kind

def counted (codes : List ConflictCode) (x : Finished) : List Metric :=
  x.heard.flatMap (counts codes) ++ [.submission x.kind (.of x.result)]

/-- A submission whose broadcasts are of its own kind, all but the last are conflicts, and are no more
than its budget. -/
structure Within (codes : List ConflictCode) (most : Nat) (x : Finished) : Prop where
  kinds : ∀ e ∈ envelopes x.heard, e.operation.kind = x.kind
  settled : (envelopes x.heard).length =
    x.heard.countP (conflicts codes) + if settles codes x.heard then 1 else 0
  bounded : (envelopes x.heard).length ≤ most

end Finished

theorem settles_conflict {codes : List ConflictCode} {x : Contact} (heard : List Contact)
    (conflict : conflicts codes x = true) : settles codes (x :: heard) = settles codes heard := by
  unfold settles
  cases x with
  | looked a answer => rfl
  | rested ms => rfl
  | sent e answer =>
    rw [List.filter_cons_of_pos (by rfl), List.getLast?_cons]
    cases hlast : (heard.filter isBroadcast).getLast? with
    | none => simp [conflict]
    | some y => simp

/-- A submission makes one broadcast for each conflict, and one more if that is what ended it. -/
theorem Course.settled_length {c : Client σ} {s : Session} {order : Order} {k : Nat}
    {n n' : Counters} {l l' : σ} {heard : List Contact} {result : Except Failure Submission}
    (h : Course c s order k n l heard result n' l') :
    (envelopes heard).length = heard.countP (conflicts s.conflictCodes) +
      if settles s.conflictCodes heard then 1 else 0 := by
  induction h with
  | unanswered _ | refused _ _ => simp [settles, isBroadcast, conflicts]
  | unsent _ => simp [settles, isBroadcast, conflicts]
  | rejected _ verdict => simp [settles, isBroadcast, conflicts, verdict]
  | succeeded _ verdict => simp [settles, isBroadcast, conflicts, verdict]
  | exhausted _ verdict _ => simp [settles, isBroadcast, conflicts, verdict]
  | @again k n l info m e r l' ms heard result n' l'' made verdict left rest ih =>
    have hconflict : conflicts s.conflictCodes (.sent e (.ok r)) = true := by
      simp [conflicts, verdict]
    have hsettles : settles s.conflictCodes
        (.looked s.wallet.account (.ok info) :: .sent e (.ok r) :: .rested ms :: heard) =
          settles s.conflictCodes heard :=
      settles_conflict (.rested ms :: heard) hconflict
    rw [hsettles]
    simp only [envelopes_looked, envelopes_sent, envelopes_rested, List.length_cons, ih,
      List.countP_cons, hconflict]
    simp [conflicts]
    omega

theorem Course.length_le {c : Client σ} {s : Session} {order : Order} {k : Nat}
    {n n' : Counters} {l l' : σ} {heard : List Contact} {result : Except Failure Submission}
    (h : Course c s order k n l heard result n' l') (hk : k < s.backoff.maxAttempts.toNat) :
    k + (envelopes heard).length ≤ s.backoff.maxAttempts.toNat := by
  induction h with
  | unanswered _ | refused _ _ =>
    simp
    omega
  | unsent _ | rejected _ _ | succeeded _ _ | exhausted _ _ _ =>
    simp
    omega
  | again _ _ left _ ih =>
    have hrest := ih left
    simp only [envelopes_looked, envelopes_sent, envelopes_rested, List.length_cons]
    omega

/-- A scene that some submissions have led to, with all that they have left in journals and counters. -/
structure Tallied (s t : Scene (σ × List Envelope)) (done : List Finished) : Prop where
  session : ∃ n, t.session = withCounters s.session n
  journal : t.world.journal = s.world.journal ++ done.flatMap Finished.heard
  metrics : t.world.metrics =
    s.world.metrics ++ done.flatMap (Finished.counted s.session.conflictCodes)
  handed : t.world.ledger.2 = s.world.ledger.2 ++ envelopes (done.flatMap Finished.heard)
  within : ∀ x ∈ done, x.Within s.session.conflictCodes s.session.backoff.maxAttempts.toNat

theorem Tallied.refl (s : Scene (σ × List Envelope)) : Tallied s s [] where
  session := ⟨s.session.wallet.counters, rfl⟩
  journal := (List.append_nil _).symm
  metrics := (List.append_nil _).symm
  handed := (List.append_nil _).symm
  within := by simp

theorem Tallied.trans {s t u : Scene (σ × List Envelope)} {done later : List Finished}
    (h : Tallied s t done) (h' : Tallied t u later) : Tallied s u (done ++ later) := by
  obtain ⟨m, hm⟩ := h.session
  obtain ⟨n, hn⟩ := h'.session
  have hmetrics := h'.metrics
  have hwithin := h'.within
  rw [hm] at hmetrics hwithin
  refine ⟨⟨n, by rw [hn, hm]; rfl⟩, ?_, ?_, ?_, ?_⟩
  · rw [h'.journal, h.journal, List.flatMap_append, List.append_assoc]
  · rw [hmetrics, h.metrics, List.flatMap_append, List.append_assoc]
    rfl
  · rw [h'.handed, h.handed, List.flatMap_append, envelopes_append, List.append_assoc]
  · intro x hx
    rcases List.mem_append.mp hx with hx | hx
    · exact h.within x hx
    · exact hwithin x hx

theorem submit_tallied (c : Client σ) (order : Order) (s : Scene (σ × List Envelope)) :
    Tallied s (submit (recorded c) order s).2 [{
      order
      heard := (submit (recorded c) order s).2.world.journal.drop s.world.journal.length
      result := (submit (recorded c) order s).1 }] := by
  obtain ⟨heard, n, hj, hm, hs, hcourse⟩ := submit_counts (recorded c) order s
  rw [hj, List.drop_left]
  refine ⟨⟨n, hs⟩, by simp [hj], ?_, by simp [hcourse.dealt.recorded], ?_⟩
  · rw [hm, List.append_assoc]
    simp [Finished.counted, Finished.kind]
  · intro x hx
    obtain rfl := List.mem_singleton.mp hx
    refine ⟨?_, hcourse.settled_length, ?_⟩
    · intro e he
      rw [(hcourse.requested e he).1]
      rfl
    · have hle := hcourse.length_le s.session.backoff.pos
      simpa using hle

theorem run_tallied (c : Client σ) (x : Call) (s : Scene (σ × List Envelope)) :
    Tallied s (x.run (recorded c) s) (finished? (recorded c) x s).toList := by
  have hrun := x.run_eq (recorded c) s
  unfold finished?
  cases ordered : x.order s.session.fees with
  | none =>
    obtain ⟨contract, msg, rfl⟩ := Call.order_eq_none_iff.mp ordered
    have h := Tallied.refl s
    exact ⟨h.session, h.journal, h.metrics, h.handed, h.within⟩
  | some made =>
    rw [ordered] at hrun
    rw [hrun]
    cases made with
    | error f => exact .refl s
    | ok order => exact submit_tallied c order s

theorem runAll_tallied (c : Client σ) (calls : List Call) (s : Scene (σ × List Envelope)) :
    Tallied s (Call.runAll (recorded c) calls s) (finished (recorded c) calls s) := by
  induction calls generalizing s with
  | nil => exact .refl s
  | cons x calls ih => exact (run_tallied c x s).trans (ih (x.run (recorded c) s))

theorem counts_sent (codes : List ConflictCode) (e : Envelope) (answer : Except Failure Receipt) :
    counts codes (.sent e answer) = .broadcast e.operation.kind ::
      if conflicts codes (.sent e answer) then [.conflict e.operation.kind] else [] := by
  cases answer with
  | error f => rfl
  | ok r => cases hv : r.verdict codes <;> simp [counts, conflicts, hv]

theorem count_broadcast (codes : List ConflictCode) (kind : Operation.Kind) (heard : List Contact) :
    (heard.flatMap (counts codes)).count (.broadcast kind) =
      (envelopes heard).countP fun e => e.operation.kind = kind := by
  induction heard with
  | nil => rfl
  | cons x heard ih =>
    rw [List.flatMap_cons, List.count_append, ih]
    cases x with
    | looked a answer => simp [counts]
    | rested ms => simp [counts]
    | sent e answer =>
      rw [counts_sent, envelopes_sent, List.countP_cons, Nat.add_comm]
      congr 1
      cases conflicts codes (.sent e answer) <;> simp [List.count_cons]

theorem count_conflict (codes : List ConflictCode) (kind : Operation.Kind) (heard : List Contact) :
    (heard.flatMap (counts codes)).count (.conflict kind) =
      heard.countP (conflictOf codes kind) := by
  induction heard with
  | nil => rfl
  | cons x heard ih =>
    rw [List.flatMap_cons, List.count_append, ih, List.countP_cons, Nat.add_comm]
    congr 1
    cases x with
    | looked a answer => rfl
    | rested ms => rfl
    | sent e answer =>
      rw [counts_sent, conflictOf]
      cases conflicts codes (.sent e answer) <;> simp [List.count_cons]

theorem count_submission (codes : List ConflictCode) (kind : Operation.Kind) (outcome : Outcome)
    (heard : List Contact) :
    (heard.flatMap (counts codes)).count (.submission kind outcome) = 0 := by
  rw [List.count_eq_zero]
  intro hmem
  obtain ⟨x, _, hx⟩ := List.mem_flatMap.mp hmem
  cases x with
  | looked a answer => simp [counts] at hx
  | rested ms => simp [counts] at hx
  | sent e answer =>
    rw [counts_sent] at hx
    cases hc : conflicts codes (.sent e answer) <;> simp [hc] at hx

/-- The broadcasts of a submission are all of its kind, and so are its conflicts. -/
theorem Finished.Within.envelopes_kind {codes : List ConflictCode} {most : Nat} {x : Finished}
    (h : x.Within codes most) (kind : Operation.Kind) :
    ((envelopes x.heard).countP fun e => e.operation.kind = kind) =
      if x.kind = kind then (envelopes x.heard).length else 0 := by
  split
  · rename_i hkind
    rw [List.countP_eq_length]
    intro e he
    simpa [h.kinds e he] using hkind
  · rename_i hkind
    rw [List.countP_eq_zero]
    intro e he
    simpa [h.kinds e he] using hkind

theorem mem_envelopes {heard : List Contact} {e : Envelope} {answer : Except Failure Receipt}
    (h : .sent e answer ∈ heard) : e ∈ envelopes heard :=
  List.mem_filterMap.mpr ⟨_, h, rfl⟩

theorem Finished.Within.conflicts_kind {codes : List ConflictCode} {most : Nat} {x : Finished}
    (h : x.Within codes most) (kind : Operation.Kind) :
    x.heard.countP (conflictOf codes kind) =
      if x.kind = kind then x.heard.countP (conflicts codes) else 0 := by
  have hcontact : ∀ contact ∈ x.heard,
      conflictOf codes kind contact = (conflicts codes contact && decide (x.kind = kind)) := by
    intro contact hmem
    cases contact with
    | looked a answer => rfl
    | rested ms => rfl
    | sent e answer =>
      rw [conflictOf, h.kinds e (mem_envelopes hmem)]
      rfl
  split
  · rename_i hkind
    apply List.countP_congr
    intro contact hmem
    simp [hcontact contact hmem, hkind]
  · rename_i hkind
    rw [List.countP_eq_zero]
    intro contact hmem
    simp [hcontact contact hmem, hkind]

def Finished.isOf (kind : Operation.Kind) (x : Finished) : Bool := x.kind = kind

/-- The text under which a submission counts that ends with the given result. -/
inductive CountsAs {α : Type} : Except Failure α → String → Prop where
  | succeeded (a : α) : CountsAs (.ok a) "succeeded"
  | rejected (operation : String) (code : UInt32) (codespace rawLog txhash : String) :
      CountsAs (.error (.rejected operation code codespace rawLog txhash)) "rejected"
  | missingEvent (txhash eventType attributeKey : String) :
      CountsAs (.error (.missingEvent txhash eventType attributeKey)) "missing_event"
  | retryExhausted (attempts : UInt32) :
      CountsAs (.error (.retryExhausted attempts)) "retry_exhausted"
  | rpc (text : String) : CountsAs (.error (.rpc text)) "transport_error"
  | timeout (secs : UInt64) : CountsAs (.error (.timeout secs)) "transport_error"
  | malformedValue (txhash attributeKey value : String) :
      CountsAs (.error (.malformedValue txhash attributeKey value)) "invalid"
  | invalidOperation (text : String) : CountsAs (.error (.invalidOperation text)) "invalid"
  | invalidFee (text : String) : CountsAs (.error (.invalidFee text)) "invalid"
  | wallet (text : String) : CountsAs (.error (.wallet text)) "invalid"
  | chainMismatch (expected actual : String) :
      CountsAs (.error (.chainMismatch expected actual)) "invalid"
  | io (text : String) : CountsAs (.error (.io text)) "invalid"

theorem countsAs_of {α : Type} (result : Except Failure α) :
    CountsAs result (Outcome.of result).label := by
  cases result with
  | ok a => exact .succeeded a
  | error f => cases f <;> constructor

theorem countsAs_iff {α : Type} {result : Except Failure α} {text : String} :
    CountsAs result text ↔ (Outcome.of result).label = text := by
  constructor
  · intro h
    cases h <;> rfl
  · rintro rfl
    exact countsAs_of result

theorem countsAs_label_iff {α : Type} {result : Except Failure α} {outcome : Outcome} :
    CountsAs result outcome.label ↔ Outcome.of result = outcome := by
  have hinjective : ∀ a b : Outcome, a.label = b.label → a = b := by decide
  rw [countsAs_iff]
  exact ⟨hinjective _ _, congrArg Outcome.label⟩

instance {α : Type} (result : Except Failure α) (text : String) :
    Decidable (CountsAs result text) :=
  decidable_of_iff' _ countsAs_iff

def endings : List String :=
  ["succeeded", "rejected", "missing_event", "retry_exhausted", "transport_error", "invalid"]

section

variable (metrics : List Metric) (kind : Operation.Kind)

def broadcastsTotal : Nat :=
  Metric.total metrics (Metric.name "ledger_broadcasts_total" [("operation", kind.label)])

def conflictsTotal : Nat :=
  Metric.total metrics (Metric.name "ledger_sequence_conflicts_total" [("operation", kind.label)])

def submissionsTotal (ending : String) : Nat :=
  Metric.total metrics
    (Metric.name "ledger_submissions_total" [("operation", kind.label), ("outcome", ending)])

end

/-- How the counters of a kind of operation stand to the submissions that have ended: to the envelopes
of their broadcasts, to the conflicts among these, and to their results. -/
structure Balanced (codes : List ConflictCode) (most : Nat) (done : List Finished)
    (metrics : List Metric) (kind : Operation.Kind) : Prop where
  broadcasts : broadcastsTotal metrics kind =
    (envelopes (done.flatMap Finished.heard)).countP fun e => e.operation.kind = kind
  conflicts : conflictsTotal metrics kind =
    (done.flatMap Finished.heard).countP (conflictOf codes kind)
  submissions : ∀ ending ∈ endings, submissionsTotal metrics kind ending =
    done.countP fun x => x.isOf kind && CountsAs x.result ending
  ended : (endings.map (submissionsTotal metrics kind)).sum = done.countP (Finished.isOf kind)
  settled : broadcastsTotal metrics kind = conflictsTotal metrics kind +
    done.countP fun x => x.isOf kind && settles codes x.heard
  conflicts_le : conflictsTotal metrics kind ≤ broadcastsTotal metrics kind
  broadcasts_le : broadcastsTotal metrics kind ≤ done.countP (Finished.isOf kind) * most

theorem exists_outcome {ending : String} (h : ending ∈ endings) :
    ∃ outcome : Outcome, outcome.label = ending := by
  have hlabels : endings = [.succeeded, .rejected, .missingEvent, .retryExhausted, .transportError,
      .invalid].map Outcome.label := rfl
  rw [hlabels] at h
  obtain ⟨outcome, _, rfl⟩ := List.mem_map.mp h
  exact ⟨outcome, rfl⟩

/-- Every submission counts under one of the texts. -/
theorem sum_endings (done : List Finished) (kind : Operation.Kind) :
    (endings.map fun ending =>
      done.countP fun x => x.isOf kind && CountsAs x.result ending).sum =
        done.countP (Finished.isOf kind) := by
  induction done with
  | nil => rfl
  | cons x done ih =>
    have hx : ∀ ending, CountsAs x.result ending ↔ (Outcome.of x.result).label = ending :=
      fun _ => countsAs_iff
    simp only [endings, List.map_cons, List.map_nil, List.sum_cons, List.sum_nil,
      List.countP_cons] at ih ⊢
    cases x.isOf kind <;> cases h : Outcome.of x.result <;> simp [hx, h, Outcome.label] <;> omega

section

variable {codes : List ConflictCode} {most : Nat} {done : List Finished}

theorem count_counted_broadcast (kind : Operation.Kind) :
    (done.flatMap (Finished.counted codes)).count (.broadcast kind) =
      (envelopes (done.flatMap Finished.heard)).countP fun e => e.operation.kind = kind := by
  induction done with
  | nil => rfl
  | cons x done ih =>
    simp [Finished.counted, List.count_append, count_broadcast, ih]

theorem count_counted_conflict (kind : Operation.Kind) :
    (done.flatMap (Finished.counted codes)).count (.conflict kind) =
      (done.flatMap Finished.heard).countP (conflictOf codes kind) := by
  induction done with
  | nil => rfl
  | cons x done ih =>
    simp [Finished.counted, List.count_append, count_conflict, ih]

theorem count_counted_submission (kind : Operation.Kind) (outcome : Outcome) :
    (done.flatMap (Finished.counted codes)).count (.submission kind outcome) =
      done.countP fun x => x.isOf kind && CountsAs x.result outcome.label := by
  induction done with
  | nil => rfl
  | cons x done ih =>
    simp [Finished.counted, List.count_append, count_submission, ih, List.count_cons,
      List.countP_cons, Finished.isOf, countsAs_label_iff, Nat.add_comm]

theorem settled_balance (within : ∀ x ∈ done, x.Within codes most) (kind : Operation.Kind) :
    ((envelopes (done.flatMap Finished.heard)).countP fun e => e.operation.kind = kind) =
      (done.flatMap Finished.heard).countP (conflictOf codes kind) +
        done.countP fun x => x.isOf kind && settles codes x.heard := by
  induction done with
  | nil => rfl
  | cons x done ih =>
    have hx := within x (.head _)
    have hrest := ih fun y hy => within y (.tail _ hy)
    simp only [List.flatMap_cons, envelopes_append, List.countP_append, List.countP_cons,
      hx.envelopes_kind, hx.conflicts_kind, hrest, hx.settled]
    by_cases hkind : x.kind = kind
    · simp [Finished.isOf, hkind]
      omega
    · simp [Finished.isOf, hkind]

theorem broadcasts_bound (within : ∀ x ∈ done, x.Within codes most) (kind : Operation.Kind) :
    ((envelopes (done.flatMap Finished.heard)).countP fun e => e.operation.kind = kind) ≤
      done.countP (Finished.isOf kind) * most := by
  induction done with
  | nil => simp
  | cons x done ih =>
    have hx := within x (.head _)
    have hrest := ih fun y hy => within y (.tail _ hy)
    have hbound := hx.bounded
    simp only [List.flatMap_cons, envelopes_append, List.countP_append, List.countP_cons,
      hx.envelopes_kind]
    by_cases hkind : x.kind = kind
    · simp [Finished.isOf, hkind, Nat.add_mul]
      omega
    · simpa [Finished.isOf, hkind] using hrest

theorem balanced_of_within (within : ∀ x ∈ done, x.Within codes most) (kind : Operation.Kind) :
    Balanced codes most done (done.flatMap (Finished.counted codes)) kind := by
  have hbroadcasts : broadcastsTotal (done.flatMap (Finished.counted codes)) kind = _ :=
    (Metric.total_counter _ (.broadcast kind)).trans (count_counted_broadcast kind)
  have hconflicts : conflictsTotal (done.flatMap (Finished.counted codes)) kind = _ :=
    (Metric.total_counter _ (.conflict kind)).trans (count_counted_conflict kind)
  have hsubmissions : ∀ ending ∈ endings,
      submissionsTotal (done.flatMap (Finished.counted codes)) kind ending =
        done.countP fun x => x.isOf kind && CountsAs x.result ending := by
    intro ending hending
    obtain ⟨outcome, rfl⟩ := exists_outcome hending
    exact (Metric.total_counter _ (.submission kind outcome)).trans
      (count_counted_submission kind outcome)
  have hsettled := settled_balance within kind
  refine ⟨hbroadcasts, hconflicts, hsubmissions, ?_, ?_, ?_, ?_⟩
  · rw [List.map_congr_left hsubmissions]
    exact sum_endings done kind
  · rw [hbroadcasts, hconflicts]
    exact hsettled
  · rw [hbroadcasts, hconflicts]
    omega
  · rw [hbroadcasts]
    exact broadcasts_bound within kind

end

/-- Over every run, whatever the client answers, the counters agree with what the client was handed
and with how the submissions ended. -/
theorem counters_balanced (c : Client σ) (calls : List Call) (s : Scene (σ × List Envelope)) :
    let t := Call.runAll (recorded c) calls s
    let done := finished (recorded c) calls s
    t.world.journal = s.world.journal ++ done.flatMap Finished.heard ∧
    t.world.ledger.2 = s.world.ledger.2 ++ envelopes (done.flatMap Finished.heard) ∧
    ∃ counted, t.world.metrics = s.world.metrics ++ counted ∧
      ∀ kind, Balanced s.session.conflictCodes s.session.backoff.maxAttempts.toNat done counted
        kind := by
  have h := runAll_tallied c calls s
  exact ⟨h.journal, h.handed, _, h.metrics, balanced_of_within h.within⟩

end TxDispatch.Proofs
