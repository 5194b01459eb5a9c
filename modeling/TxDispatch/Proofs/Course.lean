import TxDispatch.Session

namespace TxDispatch.Proofs

open Scene

variable {σ : Type}

/-- The answer to a broadcast under a deadline, with the state in which the ledger is left. -/
def answered (c : Client σ) (secs : UInt64) (e : Envelope) (ledger : σ) :
    Except Failure Receipt × σ :=
  match Deadline.ending secs (c.broadcast e ledger).wait with
  | .finished => ((c.broadcast e ledger).answer, (c.broadcast e ledger).answered)
  | .elapsed _ => (.error (.timeout secs), (c.broadcast e ledger).dropped)

/-- The counters after an account answer, which replaces them after a conflict. -/
def adopted (conflicted : Bool) (n : Counters) (info : AccountInfo) : Counters :=
  if conflicted then n.reset info else n.observe info

def withCounters (s : Session) (n : Counters) : Session :=
  { s with wallet := { s.wallet with counters := n } }

/-- The envelope that a session signs with the given counters, unless the order is refused. -/
def sealed (s : Session) (order : Order) (n : Counters) : Except Failure Envelope :=
  Envelope.build s.memo { s.wallet with counters := n } order.operation order.fee

/-- One lookup and one broadcast, with the answers to both. The broadcast is signed with the
counters `m`, and it leaves the ledger in the state `l'`. -/
structure Try (c : Client σ) (s : Session) (order : Order) (conflicted : Bool) (n : Counters) (l : σ)
    (info : AccountInfo) (m : Counters) (e : Envelope) (answer : Except Failure Receipt) (l' : σ) :
    Prop where
  looked : (c.account s.wallet.account l).1 = .ok info
  counters : m = adopted conflicted n info
  signed : sealed s order m = .ok e
  sent : answered c s.attemptTimeout e (c.account s.wallet.account l).2 = (answer, l')

/-- The rounds of a submission from the counters `n` and the ledger `l` on, once `k` broadcasts are
made: what is heard, the result, and the counters and the ledger at the end. -/
inductive Course (c : Client σ) (s : Session) (order : Order) :
    Nat → Counters → σ → List Contact → Except Failure Submission → Counters → σ → Prop where
  | unanswered {k n l f} (looked : (c.account s.wallet.account l).1 = .error f) :
      Course c s order k n l [.looked s.wallet.account (.error f)] (.error f) n
        (c.account s.wallet.account l).2
  | refused {k n l info f} (looked : (c.account s.wallet.account l).1 = .ok info)
      (refusal : sealed s order (adopted (0 < k) n info) = .error f) :
      Course c s order k n l [.looked s.wallet.account (.ok info)] (.error f)
        (adopted (0 < k) n info) (c.account s.wallet.account l).2
  | unsent {k n l info m e f l'} (made : Try c s order (0 < k) n l info m e (.error f) l') :
      Course c s order k n l [.looked s.wallet.account (.ok info), .sent e (.error f)] (.error f) m l'
  | rejected {k n l info m e r l'} (made : Try c s order (0 < k) n l info m e (.ok r) l')
      (failed : r.verdict s.conflictCodes = .failed r.code r.codespace r.rawLog) :
      Course c s order k n l [.looked s.wallet.account (.ok info), .sent e (.ok r)]
        (.error (.rejected order.operation.kind.label r.code r.codespace r.rawLog r.txhash))
        (if r.isIncluded then m.advancePast e.sequence else m) l'
  | succeeded {k n l info m e r l'} (made : Try c s order (0 < k) n l info m e (.ok r) l')
      (success : r.verdict s.conflictCodes = .succeeded) :
      Course c s order k n l [.looked s.wallet.account (.ok info), .sent e (.ok r)]
        (Session.conclude order.target (.ofNat (k + 1)) r) (m.advancePast e.sequence) l'
  | exhausted {k n l info m e r l'} (made : Try c s order (0 < k) n l info m e (.ok r) l')
      (conflict : r.verdict s.conflictCodes = .conflict)
      (spent : k + 1 = s.backoff.maxAttempts.toNat) :
      Course c s order k n l [.looked s.wallet.account (.ok info), .sent e (.ok r)]
        (.error (.retryExhausted (.ofNat (k + 1)))) m l'
  | again {k n l info m e r l' ms heard result n' l''}
      (made : Try c s order (0 < k) n l info m e (.ok r) l')
      (conflict : r.verdict s.conflictCodes = .conflict)
      (left : k + 1 < s.backoff.maxAttempts.toNat)
      (rest : Course c s order (k + 1) m l' heard result n' l'') :
      Course c s order k n l
        (.looked s.wallet.account (.ok info) :: .sent e (.ok r) :: .rested ms :: heard) result n' l''

/-- What is counted on a contact: a broadcast, and the conflict that it ended in. -/
def counts (codes : List ConflictCode) : Contact → List Metric
  | .sent e (.ok r) =>
    match r.verdict codes with
    | .conflict => [.broadcast e.operation.kind, .conflict e.operation.kind]
    | _ => [.broadcast e.operation.kind]
  | .sent e (.error _) => [.broadcast e.operation.kind]
  | _ => []

/-- What is heard once so many broadcasts are made, where every rest is the delay that the policy has
after the broadcasts before it. -/
inductive Paced (b : Backoff) : Nat → List Contact → Prop where
  | done {made} : Paced b made []
  | looked {made a answer heard} (rest : Paced b made heard) :
      Paced b made (.looked a answer :: heard)
  | sent {made e answer heard} (rest : Paced b (made + 1) heard) :
      Paced b made (.sent e answer :: heard)
  | rested {made heard} (draw : UInt64) (rest : Paced b made heard) :
      Paced b made (.rested (b.delay (.ofNat made) draw) :: heard)

theorem verdict_failed {codes : List ConflictCode} {r : Receipt} {code : UInt32}
    {codespace rawLog : String} (h : r.verdict codes = .failed code codespace rawLog) :
    code = r.code ∧ codespace = r.codespace ∧ rawLog = r.rawLog := by
  unfold Receipt.verdict at h
  split at h
  · cases h
  · split at h
    · cases h
      exact ⟨rfl, rfl, rfl⟩
    · cases h

theorem look_shape (c : Client σ) (conflicted : Bool) (s : Session) (n : Counters) (w : World σ) :
    ∃ w' : World σ, w'.ledger = (c.account s.wallet.account w.ledger).2 ∧
      w'.journal =
        w.journal ++ [.looked s.wallet.account (c.account s.wallet.account w.ledger).1] ∧
      w'.metrics = w.metrics ∧
      look c conflicted ⟨withCounters s n, w⟩ =
        match (c.account s.wallet.account w.ledger).1 with
        | .error f => (.error f, ⟨withCounters s n, w'⟩)
        | .ok info => (.ok (), ⟨withCounters s (adopted conflicted n info), w'⟩) := by
  refine ⟨{ w with ledger := (c.account s.wallet.account w.ledger).2, journal := _ }, rfl, rfl, rfl, ?_⟩
  cases ha : (c.account s.wallet.account w.ledger).1 with
  | error f => simp only [look, withCounters, note, ha]
  | ok info =>
    cases conflicted <;>
      simp [look, withCounters, note, ha, Session.adopt, adopted, Wallet.reset, Wallet.observe]

theorem send_shape (c : Client σ) (e : Envelope) (s : Session) (n : Counters) (w : World σ) :
    ∃ w' : World σ, w'.ledger = (answered c s.attemptTimeout e w.ledger).2 ∧
      w'.journal = w.journal ++ [.sent e (answered c s.attemptTimeout e w.ledger).1] ∧
      w'.metrics = w.metrics ++ [.broadcast e.operation.kind] ∧
      send c e ⟨withCounters s n, w⟩ =
        ((answered c s.attemptTimeout e w.ledger).1, ⟨withCounters s n, w'⟩) := by
  refine ⟨(send c e ⟨withCounters s n, w⟩).2.world, ?_, ?_, rfl, ?_⟩
  all_goals
    simp only [send, answered, Deadline.apply, withCounters, note, count]
    cases Deadline.ending s.attemptTimeout (c.broadcast e w.ledger).wait <;> rfl

/-- Counting a conflict and resting after it keep the session and the ledger. -/
theorem rest_shape (made : UInt32) (m : Metric) (s : Session) (w : World σ) :
    ∃ (draw : UInt64) (w' : World σ), w'.ledger = w.ledger ∧
      w'.journal = w.journal ++ [.rested (s.backoff.delay made draw)] ∧
      w'.metrics = w.metrics ++ [m] ∧ rest made (count ⟨s, w⟩ m) = ⟨s, w'⟩ :=
  ⟨w.draws.headD 0, (rest made (count ⟨s, w⟩ m)).world, rfl, rfl, rfl, rfl⟩

/-- What an answer does to a session is decided by its verdict. -/
theorem settle_shape (s : Session) (n : Counters) (order : Order) (attempts : UInt32) (e : Envelope)
    (r : Receipt) :
    (withCounters s n).settle order attempts e r =
      match r.verdict s.conflictCodes with
      | .conflict => (withCounters s n, none)
      | .failed code codespace rawLog =>
        (withCounters s (if r.isIncluded then n.advancePast e.sequence else n),
          some (.error (.rejected order.operation.kind.label code codespace rawLog r.txhash)))
      | .succeeded => (withCounters s (n.advancePast e.sequence),
          some (Session.conclude order.target attempts r)) := by
  cases hv : r.verdict s.conflictCodes with
  | conflict => simp [Session.settle, withCounters, hv]
  | failed code codespace rawLog =>
    simp only [Session.settle, withCounters, hv]
    split <;> rfl
  | succeeded => simp [Session.settle, withCounters, hv, Session.advancePast, Wallet.advancePast]

/-- A success is concluded in three ways: no value is asked for, or it is not there, or it is. -/
theorem conclude_cases (target : Option Target) (made : UInt32) (r : Receipt) :
    (target = none ∧
      Session.conclude target made r = .ok ⟨r.txhash, r.height, r.gasUsed, made, none⟩) ∨
    (∃ t, target = some t ∧ r.eventLog.extract? t = none ∧
      Session.conclude target made r =
        .error (.missingEvent r.txhash t.eventType t.attributeKey)) ∨
    ∃ t value, target = some t ∧ r.eventLog.extract? t = some value ∧
      Session.conclude target made r = .ok ⟨r.txhash, r.height, r.gasUsed, made, some value⟩ := by
  cases target with
  | none => exact .inl ⟨rfl, rfl⟩
  | some t =>
    cases hx : r.eventLog.extract? t with
    | none => exact .inr (.inl ⟨t, rfl, hx, by simp [Session.conclude, hx]⟩)
    | some value => exact .inr (.inr ⟨t, value, rfl, hx, by simp [Session.conclude, hx]⟩)

theorem sealed_withCounters (s : Session) (order : Order) (n : Counters) :
    sealed s order n = Envelope.build (withCounters s n).memo (withCounters s n).wallet
      order.operation order.fee := rfl

theorem sealed_operation {s : Session} {order : Order} {n : Counters} {e : Envelope}
    (h : sealed s order n = .ok e) : e.operation = order.operation :=
  (Envelope.build_eq_ok h).2

/-- Broadcasts within the budget are counted without wrapping round. -/
theorem made_toNat {s : Session} {k : Nat} (hk : k ≤ s.backoff.maxAttempts.toNat) :
    (UInt32.ofNat k).toNat = k := by
  have hlt := s.backoff.maxAttempts.toNat_lt
  exact UInt32.toNat_ofNat_of_lt (by rw [UInt32.size]; omega)

theorem zero_lt_made {s : Session} {k : Nat} (hk : k < s.backoff.maxAttempts.toNat) :
    decide ((0 : UInt32) < .ofNat k) = decide (0 < k) := by
  simp only [UInt32.lt_iff_toNat_lt, made_toNat (Nat.le_of_lt hk), UInt32.toNat_zero]

theorem allowsAnother_made {s : Session} {k : Nat} (hk : k ≤ s.backoff.maxAttempts.toNat) :
    s.backoff.allowsAnother (.ofNat k) = decide (k < s.backoff.maxAttempts.toNat) := by
  simp only [Backoff.allowsAnother, UInt32.lt_iff_toNat_lt, made_toNat hk]

/-- A round whose account lookup fails is the last. -/
theorem round_unanswered {c : Client σ} {s : Session} (order : Order) (left : Nat) {k : Nat}
    (n : Counters) {w : World σ} {f : Failure}
    (looked : (c.account s.wallet.account w.ledger).1 = .error f) :
    ∃ w', w'.ledger = (c.account s.wallet.account w.ledger).2 ∧
      w'.journal = w.journal ++ [.looked s.wallet.account (.error f)] ∧ w'.metrics = w.metrics ∧
      rounds c order (left + 1) (.ofNat k) ⟨withCounters s n, w⟩ =
        (.error f, ⟨withCounters s n, w'⟩) := by
  obtain ⟨w', hl, hj, hm, hlook⟩ := look_shape c (decide ((0 : UInt32) < .ofNat k)) s n w
  rw [looked] at hj hlook
  exact ⟨w', hl, hj, hm, by rw [rounds, hlook]⟩

/-- A round whose envelope is refused is the last. -/
theorem round_refused {c : Client σ} {s : Session} {order : Order} (left : Nat) {k : Nat}
    {n : Counters} {w : World σ} {info : AccountInfo} {f : Failure}
    (hk : k < s.backoff.maxAttempts.toNat)
    (looked : (c.account s.wallet.account w.ledger).1 = .ok info)
    (refusal : sealed s order (adopted (0 < k) n info) = .error f) :
    ∃ w', w'.ledger = (c.account s.wallet.account w.ledger).2 ∧
      w'.journal = w.journal ++ [.looked s.wallet.account (.ok info)] ∧ w'.metrics = w.metrics ∧
      rounds c order (left + 1) (.ofNat k) ⟨withCounters s n, w⟩ =
        (.error f, ⟨withCounters s (adopted (0 < k) n info), w'⟩) := by
  obtain ⟨w', hl, hj, hm, hlook⟩ := look_shape c (0 < k) s n w
  rw [looked] at hj hlook
  refine ⟨w', hl, hj, hm, ?_⟩
  rw [rounds, zero_lt_made hk, hlook]
  simp only [← sealed_withCounters, refusal]

/-- A round that broadcasts goes on by the answer and its verdict. -/
theorem round_tried {c : Client σ} {s : Session} {order : Order} (left : Nat) {k : Nat}
    {n m : Counters} {w : World σ} {info : AccountInfo} {e : Envelope}
    {answer : Except Failure Receipt} {l' : σ} (hk : k < s.backoff.maxAttempts.toNat)
    (made : Try c s order (0 < k) n w.ledger info m e answer l') :
    ∃ w', w'.ledger = l' ∧
      w'.journal = w.journal ++ [.looked s.wallet.account (.ok info), .sent e answer] ∧
      w'.metrics = w.metrics ++ [.broadcast order.operation.kind] ∧
      rounds c order (left + 1) (.ofNat k) ⟨withCounters s n, w⟩ =
        match answer with
        | .error f => (.error f, ⟨withCounters s m, w'⟩)
        | .ok r =>
          match r.verdict s.conflictCodes with
          | .failed code codespace rawLog =>
            (.error (.rejected order.operation.kind.label code codespace rawLog r.txhash),
              ⟨withCounters s (if r.isIncluded then m.advancePast e.sequence else m), w'⟩)
          | .succeeded => (Session.conclude order.target (.ofNat (k + 1)) r,
              ⟨withCounters s (m.advancePast e.sequence), w'⟩)
          | .conflict =>
            let t := count ⟨withCounters s m, w'⟩ (.conflict order.operation.kind)
            if s.backoff.allowsAnother (.ofNat (k + 1)) then
              rounds c order left (.ofNat (k + 1)) (rest (.ofNat (k + 1)) t)
            else (.error (.retryExhausted (.ofNat (k + 1))), t) := by
  obtain ⟨looked, rfl, signed, sent⟩ := made
  obtain ⟨w₁, hl₁, hj₁, hm₁, hlook⟩ := look_shape c (0 < k) s n w
  obtain ⟨w₂, hl₂, hj₂, hm₂, hsend⟩ := send_shape c e s (adopted (0 < k) n info) w₁
  rw [looked] at hj₁ hlook
  rw [hl₁, sent] at hl₂ hj₂ hsend
  rw [hm₁, sealed_operation signed] at hm₂
  refine ⟨w₂, hl₂, by rw [hj₂, hj₁, List.append_assoc, List.singleton_append], hm₂, ?_⟩
  rw [rounds, zero_lt_made hk, hlook]
  simp only [← sealed_withCounters, signed, hsend]
  cases answer with
  | error f => rfl
  | ok r =>
    have hnext : UInt32.ofNat k + 1 = .ofNat (k + 1) := (UInt32.ofNat_add k 1).symm
    simp only [settle_shape, hnext]
    cases r.verdict s.conflictCodes <;> rfl

/-- Rounds within the budget go by the rules, and change no part of the session but its counters. -/
theorem rounds_course (c : Client σ) (s : Session) (order : Order) (left k : Nat) (n : Counters)
    (w : World σ) (hleft : 0 < left) (hk : k + left = s.backoff.maxAttempts.toNat) :
    ∃ heard result n' w', rounds c order left (.ofNat k) ⟨withCounters s n, w⟩ =
        (result, ⟨withCounters s n', w'⟩) ∧
      w'.journal = w.journal ++ heard ∧
      w'.metrics = w.metrics ++ heard.flatMap (counts s.conflictCodes) ∧
      Paced s.backoff k heard ∧ Course c s order k n w.ledger heard result n' w'.ledger := by
  induction left generalizing k n w with
  | zero => cases hleft
  | succ left ih =>
    have hlt : k < s.backoff.maxAttempts.toNat := by omega
    cases looked : (c.account s.wallet.account w.ledger).1 with
    | error f =>
      obtain ⟨w', hl, hj, hm, hr⟩ := round_unanswered order left (k := k) n looked
      exact ⟨_, _, _, w', hr, hj, by simp [hm, counts], .looked .done, hl ▸ .unanswered looked⟩
    | ok info =>
      cases signed : sealed s order (adopted (0 < k) n info) with
      | error f =>
        obtain ⟨w', hl, hj, hm, hr⟩ := round_refused left hlt looked signed
        exact ⟨_, _, _, w', hr, hj, by simp [hm, counts], .looked .done,
          hl ▸ .refused looked signed⟩
      | ok e =>
        obtain ⟨answer, l', sent⟩ : ∃ answer l', answered c s.attemptTimeout e
            (c.account s.wallet.account w.ledger).2 = (answer, l') := ⟨_, _, rfl⟩
        have made : Try c s order (0 < k) n w.ledger info _ e answer l' :=
          ⟨looked, rfl, signed, sent⟩
        obtain ⟨w', rfl, hj, hm, hr⟩ := round_tried left hlt made
        rw [← sealed_operation signed] at hm
        have paced : Paced s.backoff k [.looked s.wallet.account (.ok info), .sent e answer] :=
          .looked (.sent .done)
        cases answer with
        | error f => exact ⟨_, _, _, w', hr, hj, by simp [hm, counts], paced, .unsent made⟩
        | ok r =>
          cases hv : r.verdict s.conflictCodes with
          | failed code codespace rawLog =>
            obtain ⟨rfl, rfl, rfl⟩ := verdict_failed hv
            simp only [hv] at hr
            exact ⟨_, _, _, w', hr, hj, by simp [hm, counts, hv], paced, .rejected made hv⟩
          | succeeded =>
            simp only [hv] at hr
            exact ⟨_, _, _, w', hr, hj, by simp [hm, counts, hv], paced, .succeeded made hv⟩
          | conflict =>
            simp only [hv, allowsAnother_made (show k + 1 ≤ s.backoff.maxAttempts.toNat by omega),
              decide_eq_true_eq] at hr
            by_cases hmore : k + 1 < s.backoff.maxAttempts.toNat
            · obtain ⟨draw, w₁, hl₁, hj₁, hm₁, hrest⟩ := rest_shape (.ofNat (k + 1))
                (.conflict order.operation.kind) (withCounters s (adopted (0 < k) n info)) w'
              obtain ⟨heard, result, n', w₂, hr₂, hj₂, hm₂, hpaced, hcourse⟩ :=
                ih (k + 1) (adopted (0 < k) n info) w₁ (by omega) (by omega)
              rw [if_pos hmore, hrest, hr₂] at hr
              rw [hl₁] at hcourse
              rw [← sealed_operation signed] at hm₁
              exact ⟨.looked s.wallet.account (.ok info) :: .sent e (.ok r) :: .rested _ :: heard,
                _, _, w₂, hr, by simp [hj₂, hj₁, hj, withCounters],
                by simp [hm₂, hm₁, hm, counts, hv], .looked (.sent (.rested draw hpaced)),
                .again made hv hmore hcourse⟩
            · have hspent : k + 1 = s.backoff.maxAttempts.toNat := by omega
              rw [if_neg hmore] at hr
              exact ⟨_, _, _, _, hr, hj, by simp [hm, counts, hv, sealed_operation signed],
                paced, .exhausted made hv hspent⟩

/-- A submission is its rounds from the first on, and is counted by its result. -/
theorem submit_rounds (c : Client σ) (order : Order) (s : Scene σ) :
    ∃ heard result n' w', submit c order s =
        (result, count ⟨withCounters s.session n', w'⟩
          (.submission order.operation.kind (.of result))) ∧
      w'.journal = s.world.journal ++ heard ∧
      w'.metrics = s.world.metrics ++ heard.flatMap (counts s.session.conflictCodes) ∧
      Paced s.session.backoff 0 heard ∧
      Course c s.session order 0 s.session.wallet.counters s.world.ledger heard result n'
        w'.ledger := by
  obtain ⟨heard, result, n', w', hr, hrounds⟩ := rounds_course c s.session order
    s.session.backoff.maxAttempts.toNat 0 s.session.wallet.counters s.world
    s.session.backoff.pos (Nat.zero_add _)
  refine ⟨heard, result, n', w', ?_, hrounds⟩
  unfold submit
  exact congrArg (fun p => (p.1, count p.2 (.submission order.operation.kind (.of p.1)))) hr

/-- A submission goes by the rules from its first round on, and is counted by what is heard on it and
by its result. -/
theorem submit_counts (c : Client σ) (order : Order) (s : Scene σ) :
    ∃ heard n', (submit c order s).2.world.journal = s.world.journal ++ heard ∧
      (submit c order s).2.world.metrics =
        s.world.metrics ++ heard.flatMap (counts s.session.conflictCodes) ++
          [.submission order.operation.kind (.of (submit c order s).1)] ∧
      (submit c order s).2.session = withCounters s.session n' ∧
      Course c s.session order 0 s.session.wallet.counters s.world.ledger heard
        (submit c order s).1 n' (submit c order s).2.world.ledger := by
  obtain ⟨heard, result, n', w', hs, hj, hm, _, hcourse⟩ := submit_rounds c order s
  rw [hs]
  refine ⟨heard, n', hj, ?_, rfl, hcourse⟩
  rw [← hm]
  rfl

theorem submit_course (c : Client σ) (order : Order) (s : Scene σ) :
    ∃ heard n', (submit c order s).2.world.journal = s.world.journal ++ heard ∧
      (submit c order s).2.session = withCounters s.session n' ∧
      Course c s.session order 0 s.session.wallet.counters s.world.ledger heard
        (submit c order s).1 n' (submit c order s).2.world.ledger := by
  obtain ⟨heard, n', hj, _, hs, hcourse⟩ := submit_counts c order s
  exact ⟨heard, n', hj, hs, hcourse⟩

end TxDispatch.Proofs
