import TxDispatch.Operation

namespace TxDispatch

inductive Outcome where
  | succeeded
  | rejected
  | missingEvent
  | retryExhausted
  | transportError
  | invalid
deriving DecidableEq, Repr

namespace Outcome

def label : Outcome → String
  | succeeded => "succeeded"
  | rejected => "rejected"
  | missingEvent => "missing_event"
  | retryExhausted => "retry_exhausted"
  | transportError => "transport_error"
  | invalid => "invalid"

def of {α : Type} : Except Failure α → Outcome
  | .ok _ => succeeded
  | .error (.rejected _ _ _ _ _) => rejected
  | .error (.missingEvent _ _ _) => missingEvent
  | .error (.retryExhausted _) => retryExhausted
  | .error e => if e.isTransport then transportError else invalid

end Outcome

inductive Route where
  | broadcast
  | account
  | nodeInfo
  | contract
deriving DecidableEq, Repr

def Route.purpose : Route → String
  | broadcast => "broadcast"
  | account => "get account"
  | nodeInfo => "get node info"
  | contract => "query contract"

inductive Metric where
  | broadcast (kind : Operation.Kind)
  | conflict (kind : Operation.Kind)
  | submission (kind : Operation.Kind) (outcome : Outcome)
  | gatewayRequest (route : Route) (answered : Bool)
deriving DecidableEq, Repr

namespace Metric

def name (metric : String) (labels : List (String × String)) : String :=
  metric ++ "\x7b" ++ ",".intercalate (labels.map fun l => l.1 ++ "=" ++ l.2) ++ "\x7d"

/-- The series that an occurrence touches. A broadcast is counted and its duration sampled. -/
def series : Metric → List String
  | broadcast kind =>
    [name "ledger_broadcasts_total" [("operation", kind.label)],
      name "ledger_broadcast_duration_seconds" [("operation", kind.label)]]
  | conflict kind => [name "ledger_sequence_conflicts_total" [("operation", kind.label)]]
  | submission kind outcome =>
    [name "ledger_submissions_total" [("operation", kind.label), ("outcome", outcome.label)]]
  | gatewayRequest route answered =>
    [name "ledger_gateway_requests_total"
      [("outcome", if answered then "ok" else "error"), ("route", route.purpose)]]

def totals (occurrences : List Metric) : List (String × Nat) :=
  let touched := occurrences.flatMap series
  touched.eraseDups.map fun s => (s, touched.count s)

def total (occurrences : List Metric) (s : String) : Nat := (occurrences.flatMap series).count s

/-- The counter that an occurrence advances, which comes first among its series. -/
def counter (m : Metric) : String := (series m).headD ""

instance {p : Operation.Kind → Prop} [DecidablePred p] : Decidable (∀ kind, p kind) :=
  decidable_of_iff _ Operation.Kind.forall_iff.symm

instance {p : Outcome → Prop} [DecidablePred p] : Decidable (∀ outcome, p outcome) :=
  decidable_of_iff (p .succeeded ∧ p .rejected ∧ p .missingEvent ∧ p .retryExhausted ∧
      p .transportError ∧ p .invalid)
    ⟨fun ⟨hs, hr, hm, he, ht, hi⟩ outcome => by cases outcome <;> assumption,
      fun h => ⟨h _, h _, h _, h _, h _, h _⟩⟩

instance {p : Route → Prop} [DecidablePred p] : Decidable (∀ route, p route) :=
  decidable_of_iff (p .broadcast ∧ p .account ∧ p .nodeInfo ∧ p .contract)
    ⟨fun ⟨hb, ha, hn, hc⟩ route => by cases route <;> assumption, fun h => ⟨h _, h _, h _, h _⟩⟩

instance {p : Metric → Prop} [DecidablePred p] : Decidable (∀ m, p m) :=
  decidable_of_iff ((∀ kind, p (.broadcast kind)) ∧ (∀ kind, p (.conflict kind)) ∧
      (∀ kind outcome, p (.submission kind outcome)) ∧
      ∀ route answered, p (.gatewayRequest route answered))
    ⟨fun ⟨hb, hc, hs, hg⟩ m => by
        cases m with
        | broadcast kind => exact hb kind
        | conflict kind => exact hc kind
        | submission kind outcome => exact hs kind outcome
        | gatewayRequest route answered => exact hg route answered,
      fun h => ⟨fun _ => h _, fun _ => h _, fun _ _ => h _, fun _ _ => h _⟩⟩

/-- No two occurrences advance one counter, and none touches another's. -/
theorem count_counter (m x : Metric) : (series x).count (counter m) = if x = m then 1 else 0 := by
  revert m x
  decide +kernel

theorem total_counter (occurrences : List Metric) (m : Metric) :
    total occurrences (counter m) = occurrences.count m := by
  induction occurrences with
  | nil => rfl
  | cons x occurrences ih =>
    rw [List.count_cons, ← ih, Nat.add_comm]
    simp [total, List.flatMap_cons, count_counter]

end Metric

end TxDispatch
