import TxDispatch.Config.Check
import TxDispatch.Proofs.CheckedEnvelopes
import TxDispatch.Session.Connect

namespace TxDispatch.Proofs

open Scene

variable {σ : Type}

def told : Contact → Option Failure
  | .looked _ answer => Call.failureOf answer
  | .sent _ answer => Call.failureOf answer
  | .rested _ => none

def Told (heard : List Contact) (f : Failure) : Prop :=
  ∃ before x, heard = before ++ [x] ∧ told x = some f

theorem Told.append {heard : List Contact} {f : Failure} (earlier : List Contact)
    (h : Told heard f) : Told (earlier ++ heard) f := by
  obtain ⟨before, x, rfl, hx⟩ := h
  exact ⟨earlier ++ before, x, (List.append_assoc _ _ _).symm, hx⟩

/-- Why a submission fails whose rounds go on once `k` broadcasts are made. -/
inductive Cause (s : Session) (order : Order) (k : Nat) (heard : List Contact) : Failure → Prop where
  | told {f} (last : Told heard f) : Cause s order k heard f
  | refused {m f} (refusal : sealed s order m = .error f) : Cause s order k heard f
  | rejected {r : Receipt} : Cause s order k heard
      (.rejected order.operation.kind.label r.code r.codespace r.rawLog r.txhash)
  | missing {txhash eventType key} : Cause s order k heard (.missingEvent txhash eventType key)
  | exhausted (spent : k + (envelopes heard).length = s.backoff.maxAttempts.toNat) :
      Cause s order k heard (.retryExhausted s.backoff.maxAttempts)

/-- A round that was lost to a conflict comes in front, and counts. -/
theorem Cause.lose {s : Session} {order : Order} {k : Nat} {heard : List Contact} {f : Failure}
    {a : String} {info : AccountInfo} {e : Envelope} {r : Receipt} {ms : UInt64}
    (h : Cause s order (k + 1) heard f) :
    Cause s order k (.looked a (.ok info) :: .sent e (.ok r) :: .rested ms :: heard) f := by
  cases h with
  | told last => exact .told (last.append [_, _, _])
  | refused refusal => exact .refused refusal
  | rejected => exact .rejected
  | missing => exact .missing
  | exhausted spent =>
    apply Cause.exhausted
    simp only [envelopes_looked, envelopes_sent, envelopes_rested, List.length_cons]
    omega

theorem Course.cause {c : Client σ} {s : Session} {order : Order} {k : Nat} {n n' : Counters}
    {l l' : σ} {heard : List Contact} {result : Except Failure Submission} {f : Failure}
    (h : Course c s order k n l heard result n' l') (failed : result = .error f) :
    Cause s order k heard f := by
  induction h with
  | unanswered looked =>
    cases failed
    exact .told ⟨[], _, rfl, rfl⟩
  | refused looked refusal =>
    cases failed
    exact .refused refusal
  | unsent made =>
    cases failed
    exact .told ⟨[_], _, rfl, rfl⟩
  | rejected made verdict =>
    cases failed
    exact .rejected
  | succeeded made success =>
    obtain ⟨eventType, key, rfl⟩ := conclude_error failed
    exact .missing
  | exhausted made conflict spent =>
    cases failed
    rw [spent, UInt32.ofNat_toNat]
    exact .exhausted spent
  | again made conflict left rest ih => exact (ih failed).lose

/-- Only the client says so of a fee that is in order. -/
theorem Cause.invalidFee {s : Session} {order : Order} {k : Nat} {heard : List Contact}
    {text : String} (h : Cause s order k heard (.invalidFee text))
    (payable : order.fee.check = .ok ()) : Told heard (.invalidFee text) := by
  cases h with
  | told last => exact last
  | refused refusal =>
    rcases sealed_error refusal with ⟨e, hfee, _⟩ | ⟨_, e, _, hf⟩
    · cases payable.symm.trans hfee
    · cases hf

theorem Cause.retryExhausted {s : Session} {order : Order} {heard : List Contact} {n : UInt32}
    (h : Cause s order 0 heard (.retryExhausted n)) :
    Told heard (.retryExhausted n) ∨
      n = s.backoff.maxAttempts ∧ (envelopes heard).length = n.toNat := by
  cases h with
  | told last => exact .inl last
  | refused refusal =>
    rcases sealed_error refusal with ⟨e, _, hf⟩ | ⟨_, e, _, hf⟩
    · cases hf
    · cases hf
  | exhausted spent => exact .inr ⟨rfl, by rw [← spent, Nat.zero_add]⟩

/-- A wait that is longer than the deadline ends in a timeout. -/
theorem answered_late {c : Client σ} {secs : UInt64} {e : Envelope} {l : σ} (limited : secs ≠ 0)
    (late : secs.toNat * 1000 < (c.broadcast e l).wait) :
    (answered c secs e l).1 = .error (.timeout secs) := by
  rw [answered, Deadline.ending_late limited late]

/-- A broadcast that outlasts the deadline is the last contact of its submission, and what that ends
with. -/
theorem Course.late {c : Client σ} {s : Session} {order : Order} {k : Nat} {n n' : Counters}
    {l l' : σ} {heard before after : List Contact} {result : Except Failure Submission}
    {e : Envelope} {answer : Except Failure Receipt} (limited : s.attemptTimeout ≠ 0)
    (h : Course c s order k n l heard result n' l')
    (hs : heard = before ++ .sent e answer :: after) :
    ∃ m, Dealt c s.wallet.account s.attemptTimeout l before m ∧
      (s.attemptTimeout.toNat * 1000 < (c.broadcast e m).wait →
        after = [] ∧ result = .error (.timeout s.attemptTimeout)) := by
  have hdealt := h.dealt
  rw [hs] at hdealt
  obtain ⟨m, hbefore, hanswer⟩ := hdealt.at_sent
  refine ⟨m, hbefore, ?_⟩
  intro late
  rw [answered_late limited late] at hanswer
  rw [hanswer] at hs
  exact h.unsent_last hs

def Recounts (s t : Scene σ) : Prop := ∃ n, t.session = withCounters s.session n

theorem Recounts.refl (s : Scene σ) : Recounts s s := ⟨s.session.wallet.counters, rfl⟩

theorem Recounts.trans {s t u : Scene σ} (h : Recounts s t) (h' : Recounts t u) : Recounts s u := by
  obtain ⟨m, hm⟩ := h
  obtain ⟨n, hn⟩ := h'
  exact ⟨n, by rw [hn, hm]; rfl⟩

theorem run_recounts (c : Client σ) (x : Call) (s : Scene σ) : Recounts s (x.run c s) := by
  rcases x.run_shape c s with ⟨order, hrun⟩ | ⟨contract, msg, hrun⟩ | hrun
  · obtain ⟨heard, n, _, hs, _⟩ := submit_course c order s
    exact ⟨n, by rw [hrun, hs]⟩
  · exact ⟨s.session.wallet.counters, by rw [hrun]; rfl⟩
  · rw [hrun]
    exact .refl s

theorem runAll_recounts (c : Client σ) (calls : List Call) (s : Scene σ) :
    Recounts s (Call.runAll c calls s) :=
  Call.runAll_induction Recounts.refl (fun _ _ _ => Recounts.trans) (run_recounts c) calls s

/-- A failure that a call only passes on: a client's answer to a query, or the last contact of a
submission. -/
inductive Relayed (c : Client σ) (s : Scene σ) (heard : List Contact) (f : Failure) : Call → Prop where
  | told {x} (last : Told heard f) : Relayed c s heard f x
  | query {contract msg} (answer : (c.query contract msg s.world.ledger).1 = .error f) :
      Relayed c s heard f (.query contract msg)

/-- A call as the configuration of its session has it, by what is heard on it. -/
structure AsConfigured (cfg : Config) (c : Client σ) (x : Call) (s : Scene σ)
    (heard : List Contact) : Prop where
  leads : Leads c s heard (x.run c s) ∨ heard = [] ∧ ∃ contract msg, x = .query contract msg
  /-- A caller that names no fee pays the one of its own kind of operation. -/
  budget : ∀ kind, x.unpriced = some kind → ∃ fee, (cfg.fees.forKind kind).toFee = .ok fee ∧
    ∀ e ∈ envelopes heard, e.operation.kind = kind ∧ e.fee = fee
  payable : ∀ kind text, x.unpriced = some kind → x.failure? c s = some (.invalidFee text) →
    Told heard (.invalidFee text)
  exhausted : ∀ n, x.failure? c s = some (.retryExhausted n) →
    Relayed c s heard (.retryExhausted n) x ∨
      n = cfg.retries.maxAttempts ∧ (envelopes heard).length = n.toNat
  /-- A broadcast that outlasts the deadline ends its call. -/
  late : ∀ before e answer after, heard = before ++ .sent e answer :: after →
    ∃ l, Dealt c s.session.wallet.account cfg.ledger.requestTimeout s.world.ledger before l ∧
      (cfg.ledger.requestTimeout.toNat * 1000 < (c.broadcast e l).wait →
        after = [] ∧ x.failure? c s = some (.timeout cfg.ledger.requestTimeout))

theorem failure?_submitted {c : Client σ} {x : Call} {s : Scene σ} {order : Order}
    (ordered : x.order s.session.fees = some (.ok order)) {f : Failure}
    (h : x.failure? c s = some f) :
    (s.submit c order).1 = .error f ∨ ∃ done, x.flaw done = some f := by
  rw [Call.failure?_eq, ordered] at h
  cases hresult : (s.submit c order).1 with
  | error f' =>
    simp only [hresult, Option.some.injEq] at h
    exact .inl (congrArg Except.error h)
  | ok done =>
    simp only [hresult] at h
    exact .inr ⟨done, h⟩

/-- A call that submits an order is as the configuration has it. -/
theorem asConfigured_submitted {cfg : Config} (sound : cfg.Sound) {wallet : Wallet} {c : Client σ}
    {x : Call} {s : Scene σ} {order : Order} (configured : s.session = .ofConfig cfg wallet)
    (ordered : x.order s.session.fees = some (.ok order)) :
    ∃ heard, AsConfigured cfg c x s heard := by
  obtain ⟨heard, n, hjournal, _, hcourse⟩ := submit_course c order s
  have hfees : s.session.fees = cfg.fees := by rw [configured]; rfl
  have hsecs : s.session.attemptTimeout = cfg.ledger.requestTimeout := by rw [configured]; rfl
  have hmost : s.session.backoff.maxAttempts = cfg.retries.maxAttempts := by
    rw [configured, Session.ofConfig_maxAttempts sound.attempts]
  have hpriced : ∀ kind, x.unpriced = some kind →
      order.operation.kind = kind ∧ (cfg.fees.forKind kind).toFee = .ok order.fee := by
    intro kind unpriced
    rw [← hfees]
    exact Call.order_unpriced unpriced ordered
  refine ⟨heard, ?_, ?_, ?_, ?_, ?_⟩
  · rw [Call.run_eq, ordered]
    exact .inl ⟨hjournal, hcourse.dealt⟩
  · intro kind unpriced
    obtain ⟨hkind, hfee⟩ := hpriced kind unpriced
    refine ⟨order.fee, hfee, ?_⟩
    intro e he
    obtain ⟨hoperation, hsame⟩ := hcourse.requested e he
    exact ⟨by rw [hoperation, hkind], hsame⟩
  · intro kind text unpriced failed
    obtain ⟨_, hfee⟩ := hpriced kind unpriced
    rcases failure?_submitted ordered failed with hresult | ⟨done, hflaw⟩
    · exact (hcourse.cause hresult).invalidFee (Fee.parse_check hfee)
    · rcases Call.flaw_shape hflaw with ⟨_, _, _, hf⟩ | ⟨_, _, _, hf⟩ <;> cases hf
  · intro n failed
    rcases failure?_submitted ordered failed with hresult | ⟨done, hflaw⟩
    · rw [← hmost]
      exact (hcourse.cause hresult).retryExhausted.imp_left .told
    · rcases Call.flaw_shape hflaw with ⟨_, _, _, hf⟩ | ⟨_, _, _, hf⟩ <;> cases hf
  · intro before e answer after hs
    have hlimited : s.session.attemptTimeout ≠ 0 := hsecs ▸ sound.timeout
    obtain ⟨l, hdealt, hlate⟩ := hcourse.late hlimited hs
    rw [← hsecs]
    refine ⟨l, hdealt, ?_⟩
    intro late
    obtain ⟨hlast, hresult⟩ := hlate late
    refine ⟨hlast, ?_⟩
    rw [Call.failure?_eq, ordered]
    simp only [hresult]

/-- A call that is heard of no one is as the configuration has it if it fails in neither way. -/
theorem asConfigured_unheard {cfg : Config} (sound : cfg.Sound) {c : Client σ} {x : Call}
    {s : Scene σ} (still : x.run c s = s ∨ ∃ contract msg, x = .query contract msg)
    (payable : ∀ kind text, x.unpriced = some kind → x.failure? c s ≠ some (.invalidFee text))
    (exhausted : ∀ n, x.failure? c s = some (.retryExhausted n) →
      Relayed c s [] (.retryExhausted n) x) : AsConfigured cfg c x s [] where
  leads := by
    rcases still with hrun | hquery
    · rw [hrun]
      exact .inl ⟨(List.append_nil _).symm, .done⟩
    · exact .inr ⟨rfl, hquery⟩
  budget := by
    intro kind _
    obtain ⟨fee, hfee⟩ := sound.fees kind
    exact ⟨fee, hfee, by simp⟩
  payable kind text unpriced failed := absurd failed (payable kind text unpriced)
  exhausted n failed := .inl (exhausted n failed)
  late := by simp

theorem asConfigured_call {cfg : Config} (sound : cfg.Sound) {wallet : Wallet} (c : Client σ)
    (x : Call) {s : Scene σ} (configured : s.session = .ofConfig cfg wallet) :
    ∃ heard, AsConfigured cfg c x s heard := by
  cases ordered : x.order s.session.fees with
  | none =>
    obtain ⟨contract, msg, rfl⟩ := Call.order_eq_none_iff.mp ordered
    refine ⟨[], asConfigured_unheard sound (.inr ⟨contract, msg, rfl⟩) ?_ ?_⟩
    · intro kind text unpriced
      cases unpriced
    · intro n failed
      exact .query (Call.failureOf_eq_some_iff.mp failed)
  | some made =>
    cases made with
    | ok order => exact asConfigured_submitted sound configured ordered
    | error f =>
      have hfees : s.session.fees = cfg.fees := by rw [configured]; rfl
      obtain ⟨text, rfl⟩ := Call.order_error (by rw [hfees]; exact sound.fees) ordered
      have hfailed : x.failure? c s = some (.io text) := by rw [Call.failure?_eq, ordered]
      refine ⟨[], asConfigured_unheard sound (.inl (by rw [Call.run_eq, ordered])) ?_ ?_⟩ <;>
        simp [hfailed]

/-- Every call of every run on a session of a valid configuration is as the configuration has it. -/
theorem valid_session {cfg : Config} (valid : cfg.isValid = true) (wallet : Wallet) (c : Client σ)
    (w : World σ) (calls : List Call) (x : Call) :
    ∃ heard, AsConfigured cfg c x (Call.runAll c calls ⟨.ofConfig cfg wallet, w⟩) heard := by
  obtain ⟨n, hsession⟩ := runAll_recounts c calls ⟨.ofConfig cfg wallet, w⟩
  have configured : (Call.runAll c calls ⟨.ofConfig cfg wallet, w⟩).session =
      .ofConfig cfg { wallet with counters := n } := hsession
  exact asConfigured_call ((Config.isValid_iff cfg).mp valid) c x configured

def leastCall : Call := .invoke "terra1contract" (.obj []) [] none

def slowWorld : World (Staged Scripted) where
  ledger := {
    inner := { chainId := "bombay-10", script := [.ok (Scripted.success 1 [])] }
    stalls := [0, 60001] }

theorem valid_session_slow :
    let c := Staged.client Scripted.client
    let s := Call.runAll c [leastCall] ⟨.ofConfig {} leastSession.wallet, slowWorld⟩
    Config.isValid {} = true ∧ leastCall.failure? c s = some (.timeout 60) ∧
      ∃ heard, AsConfigured {} c leastCall s heard :=
  have valid : Config.isValid {} = true := by decide +kernel
  ⟨valid, rfl, valid_session valid leastSession.wallet (Staged.client Scripted.client) slowWorld
    [leastCall] leastCall⟩

/-- That a call is refused for no fee of the session's own, and gives up after no other number of
broadcasts than the configured one. -/
def Spared (cfg : Config) (c : Client σ) (x : Call) (s : Scene σ) : Prop :=
  (∀ kind text, x.unpriced = some kind → x.failure? c s ≠ some (.invalidFee text)) ∧
    ∀ n, x.failure? c s = some (.retryExhausted n) → n = cfg.retries.maxAttempts

/-- A ledger's own words may be either failure. -/
theorem not_spared :
    let s : Scene Scripted := ⟨.ofConfig {} leastSession.wallet, { ledger := {
      chainId := "bombay-10"
      script := [.error (.invalidFee "no"), .error (.retryExhausted 3)] } }⟩
    Config.isValid {} = true ∧ ¬ Spared {} Scripted.client leastCall s ∧
      ¬ Spared {} Scripted.client leastCall (leastCall.run Scripted.client s) := by
  refine ⟨by decide +kernel, ?_, ?_⟩
  · intro spared
    exact spared.1 .execute "no" rfl rfl
  · intro spared
    exact absurd (spared.2 3 rfl) (by decide)

end TxDispatch.Proofs
