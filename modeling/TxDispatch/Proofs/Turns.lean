import TxDispatch.Proofs.Journal

namespace TxDispatch.Proofs

open Scene

variable {σ : Type}

inductive Stage where
  | looking
  | signing
  | sending (e : Envelope)
  | settling (e : Envelope) (r : Receipt)
  | ending (result : Except Failure Submission)

def Stage.ofAnswer (e : Envelope) : Except Failure Receipt → Stage
  | .error f => .ending (.error f)
  | .ok r => .settling e r

structure Task where
  order : Order
  made : UInt32 := 0
  stage : Stage := .looking

inductive Progress where
  | looked (answer : Except Failure AccountInfo)
  | signed (built : Except Failure Envelope)
  | sent (e : Envelope) (answer : Except Failure Receipt)
  | settled
  | ended (result : Except Failure Submission)

/-- A turn: what was done, and the session, the submission and the ledger after it. A submission that
has ended is gone. -/
structure Turn (σ : Type) where
  deed : Progress
  session : Session
  task : Option Task
  ledger : σ

namespace Task

def turn (c : Client σ) (t : Task) (s : Session) (l : σ) : Turn σ :=
  match t.stage with
  | .looking =>
    match c.account s.wallet.account l with
    | (.error f, l) => ⟨.looked (.error f), s, some { t with stage := .ending (.error f) }, l⟩
    | (.ok info, l) =>
      ⟨.looked (.ok info), s.adopt (0 < t.made) info, some { t with stage := .signing }, l⟩
  | .signing =>
    match Envelope.build s.memo s.wallet t.order.operation t.order.fee with
    | .error f => ⟨.signed (.error f), s, some { t with stage := .ending (.error f) }, l⟩
    | .ok e => ⟨.signed (.ok e), s, some { t with stage := .sending e }, l⟩
  | .sending e =>
    let (answer, l) := answered c s.attemptTimeout e l
    ⟨.sent e answer, s, some { t with made := t.made + 1, stage := .ofAnswer e answer }, l⟩
  | .settling e r =>
    match s.settle t.order t.made e r with
    | (s, some result) => ⟨.settled, s, some { t with stage := .ending result }, l⟩
    | (s, none) =>
      if s.backoff.allowsAnother t.made then ⟨.settled, s, some { t with stage := .looking }, l⟩
      else ⟨.settled, s, some { t with stage := .ending (.error (.retryExhausted t.made)) }, l⟩
  | .ending result => ⟨.ended result, s, none, l⟩

end Task

inductive Turns (c : Client σ) :
    Session → Option Task → σ → List Progress → Session → Option Task → σ → Prop where
  | done {s task l} : Turns c s task l [] s task l
  | next {s t l deeds s' task' l'}
      (rest : Turns c (t.turn c s l).session (t.turn c s l).task (t.turn c s l).ledger deeds
        s' task' l') :
      Turns c s (some t) l ((t.turn c s l).deed :: deeds) s' task' l'

def Progress.contact? (address : String) : Progress → Option Contact
  | .looked answer => some (.looked address answer)
  | .sent e answer => some (.sent e answer)
  | _ => none

/-- The contacts that reach the ledger; a rest does not. -/
def reaching (heard : List Contact) : List Contact :=
  heard.filter fun x => match x with
    | .rested _ => false
    | _ => true

theorem Turns.of_turn {c : Client σ} {s s' : Session} {t : Task} {task' : Option Task} {l l' : σ}
    {deeds : List Progress} {u : Turn σ} (h : t.turn c s l = u)
    (rest : Turns c u.session u.task u.ledger deeds s' task' l') :
    Turns c s (some t) l (u.deed :: deeds) s' task' l' := by
  subst h
  exact .next rest

theorem turn_looking {c : Client σ} {s : Session} (order : Order) (made : UInt32) (n : Counters)
    {l : σ} {info : AccountInfo} (looked : (c.account s.wallet.account l).1 = .ok info) :
    (Task.mk order made .looking).turn c (withCounters s n) l =
      ⟨.looked (.ok info), withCounters s (adopted (0 < made) n info),
        some ⟨order, made, .signing⟩, (c.account s.wallet.account l).2⟩ := by
  have hsplit : c.account s.wallet.account l = (.ok info, (c.account s.wallet.account l).2) :=
    Prod.ext looked rfl
  have haccount : (withCounters s n).wallet.account = s.wallet.account := rfl
  simp only [Task.turn, haccount]
  rw [hsplit]
  by_cases hmade : 0 < made <;>
    simp [Session.adopt, withCounters, adopted, hmade, Wallet.reset, Wallet.observe]

theorem turn_unanswered {c : Client σ} {s : Session} {order : Order} {made : UInt32} {n : Counters}
    {l : σ} {f : Failure} (looked : (c.account s.wallet.account l).1 = .error f) :
    (Task.mk order made .looking).turn c (withCounters s n) l =
      ⟨.looked (.error f), withCounters s n, some ⟨order, made, .ending (.error f)⟩,
        (c.account s.wallet.account l).2⟩ := by
  have hsplit : c.account s.wallet.account l = (.error f, (c.account s.wallet.account l).2) :=
    Prod.ext looked rfl
  have haccount : (withCounters s n).wallet.account = s.wallet.account := rfl
  simp only [Task.turn, haccount]
  rw [hsplit]

theorem turn_signing (c : Client σ) (s : Session) (order : Order) (made : UInt32) (n : Counters)
    (l : σ) : (Task.mk order made .signing).turn c (withCounters s n) l =
      match sealed s order n with
      | .error f => ⟨.signed (.error f), withCounters s n, some ⟨order, made, .ending (.error f)⟩, l⟩
      | .ok e => ⟨.signed (.ok e), withCounters s n, some ⟨order, made, .sending e⟩, l⟩ := by
  simp only [Task.turn, sealed_withCounters]

theorem turn_sending (c : Client σ) (s : Session) (order : Order) (made : UInt32) (e : Envelope)
    (l : σ) : (Task.mk order made (.sending e)).turn c s l =
      ⟨.sent e (answered c s.attemptTimeout e l).1, s,
        some ⟨order, made + 1, .ofAnswer e (answered c s.attemptTimeout e l).1⟩,
        (answered c s.attemptTimeout e l).2⟩ := rfl

theorem turn_settling (c : Client σ) (s : Session) (order : Order) (made : UInt32) (n : Counters)
    (e : Envelope) (r : Receipt) (l : σ) :
    (Task.mk order made (.settling e r)).turn c (withCounters s n) l =
      match r.verdict s.conflictCodes with
      | .failed code codespace rawLog =>
        ⟨.settled, withCounters s (if r.isIncluded then n.advancePast e.sequence else n),
          some ⟨order, made, .ending (.error
            (.rejected order.operation.kind.label code codespace rawLog r.txhash))⟩, l⟩
      | .succeeded => ⟨.settled, withCounters s (n.advancePast e.sequence),
          some ⟨order, made, .ending (Session.conclude order.target made r)⟩, l⟩
      | .conflict => ⟨.settled, withCounters s n, some ⟨order, made,
          if s.backoff.allowsAnother made then .looking
          else .ending (.error (.retryExhausted made))⟩, l⟩ := by
  have hbackoff : (withCounters s n).backoff = s.backoff := rfl
  cases hv : r.verdict s.conflictCodes with
  | conflict =>
    simp only [Task.turn, settle_shape, hv, hbackoff]
    split <;> rfl
  | succeeded => simp only [Task.turn, settle_shape, hv]
  | failed code codespace rawLog => simp only [Task.turn, settle_shape, hv]

/-- The end of a submission. -/
theorem turns_ending (c : Client σ) (s : Session) (order : Order) (made : UInt32)
    (result : Except Failure Submission) (l : σ) :
    Turns c s (some ⟨order, made, .ending result⟩) l [.ended result] s none l :=
  .of_turn rfl .done

/-- The first three turns of a round lead to the answer. -/
theorem Try.turns {c : Client σ} {s s' : Session} {order : Order} {k : Nat} {n m : Counters}
    {l l' l'' : σ} {info : AccountInfo} {e : Envelope} {answer : Except Failure Receipt}
    {task : Option Task} {deeds : List Progress} (hk : k < s.backoff.maxAttempts.toNat)
    (made : Try c s order (0 < k) n l info m e answer l')
    (rest : Turns c (withCounters s m) (some ⟨order, .ofNat (k + 1), .ofAnswer e answer⟩) l' deeds
      s' task l'') :
    Turns c (withCounters s n) (some ⟨order, .ofNat k, .looking⟩) l
      (.looked (.ok info) :: .signed (.ok e) :: .sent e answer :: deeds) s' task l'' := by
  obtain ⟨looked, rfl, signed, sent⟩ := made
  have hlook := turn_looking order (.ofNat k) n looked
  rw [zero_lt_made hk] at hlook
  have hsign := turn_signing c s order (.ofNat k) (adopted (0 < k) n info)
    (c.account s.wallet.account l).2
  simp only [signed] at hsign
  have hsend := turn_sending c (withCounters s (adopted (0 < k) n info)) order (.ofNat k) e
    (c.account s.wallet.account l).2
  have hsecs : (withCounters s (adopted (0 < k) n info)).attemptTimeout = s.attemptTimeout := rfl
  have hnext : UInt32.ofNat k + 1 = .ofNat (k + 1) := (UInt32.ofNat_add k 1).symm
  rw [hsecs, sent, hnext] at hsend
  exact .of_turn hlook (.of_turn hsign (.of_turn hsend rest))

/-- The course of a submission is what its turns make of it if nobody comes between them. -/
theorem Course.turns {c : Client σ} {s : Session} {order : Order} {k : Nat} {n n' : Counters}
    {l l' : σ} {heard : List Contact} {result : Except Failure Submission}
    (h : Course c s order k n l heard result n' l') (hk : k < s.backoff.maxAttempts.toNat) :
    ∃ deeds, Turns c (withCounters s n) (some ⟨order, .ofNat k, .looking⟩) l
        (deeds ++ [.ended result]) (withCounters s n') none l' ∧
      deeds.filterMap (Progress.contact? s.wallet.account) = reaching heard := by
  induction h with
  | unanswered looked =>
    exact ⟨[_], .of_turn (turn_unanswered looked) (turns_ending ..), rfl⟩
  | @refused k n l info f looked refusal =>
    have hlook := turn_looking order (.ofNat k) n looked
    rw [zero_lt_made hk] at hlook
    have hsign := turn_signing c s order (.ofNat k) (adopted (0 < k) n info)
      (c.account s.wallet.account l).2
    simp only [refusal] at hsign
    exact ⟨[_, _], .of_turn hlook (.of_turn hsign (turns_ending ..)), rfl⟩
  | unsent made => exact ⟨[_, _, _], made.turns hk (turns_ending ..), rfl⟩
  | @rejected k n l info m e r l' made failed =>
    have hsettle := turn_settling c s order (.ofNat (k + 1)) m e r l'
    simp only [failed] at hsettle
    exact ⟨[_, _, _, _], made.turns hk (.of_turn hsettle (turns_ending ..)), rfl⟩
  | @succeeded k n l info m e r l' made success =>
    have hsettle := turn_settling c s order (.ofNat (k + 1)) m e r l'
    simp only [success] at hsettle
    exact ⟨[_, _, _, _], made.turns hk (.of_turn hsettle (turns_ending ..)), rfl⟩
  | @exhausted k n l info m e r l' made conflict spent =>
    have hsettle := turn_settling c s order (.ofNat (k + 1)) m e r l'
    have hstop : ¬ k + 1 < s.backoff.maxAttempts.toNat := by omega
    simp only [conflict, allowsAnother_made (Nat.le_of_eq spent), hstop, decide_false,
      Bool.false_eq_true, if_false] at hsettle
    exact ⟨[_, _, _, _], made.turns hk (.of_turn hsettle (turns_ending ..)), rfl⟩
  | @again k n l info m e r l' ms heard result n' l'' made conflict left rest ih =>
    have hsettle := turn_settling c s order (.ofNat (k + 1)) m e r l'
    simp only [conflict, allowsAnother_made (Nat.le_of_lt left), left, decide_true, if_true]
      at hsettle
    obtain ⟨deeds, hturns, hcontacts⟩ := ih left
    refine ⟨_ :: _ :: _ :: _ :: deeds, made.turns hk (.of_turn hsettle hturns), ?_⟩
    simp only [List.filterMap_cons, Progress.contact?, hcontacts]
    rfl

/-- A submission that takes its turns alone ends with the result of `submit`, leaves the session and
the ledger as that does, and has heard the same of the ledger. -/
theorem submit_turns (c : Client σ) (order : Order) (s : Scene σ) :
    ∃ deeds heard, Turns c s.session (some { order }) s.world.ledger
        (deeds ++ [.ended (submit c order s).1]) (submit c order s).2.session none
        (submit c order s).2.world.ledger ∧
      (submit c order s).2.world.journal = s.world.journal ++ heard ∧
      deeds.filterMap (Progress.contact? s.session.wallet.account) = reaching heard := by
  obtain ⟨heard, n', hj, hs, hcourse⟩ := submit_course c order s
  obtain ⟨deeds, hturns, hcontacts⟩ := hcourse.turns s.session.backoff.pos
  rw [hs]
  exact ⟨deeds, heard, hturns, hj, hcontacts⟩

end TxDispatch.Proofs
