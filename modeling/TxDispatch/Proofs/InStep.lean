import TxDispatch.Proofs.Enforcement
import TxDispatch.Session.Errands
import TxDispatch.Session.Runs

namespace TxDispatch.Proofs

open Scene

variable {σ : Type}

/-- A step that changes nothing but the ledger, whose account only `setSequence` moves. -/
def MovesLedger (x : Errand) (s : Scene Scripted) : Prop :=
  ∃ l : Scripted, x.run s = { s with world := { s.world with ledger := l } } ∧
    (l.account = s.world.ledger.account ∨ ∃ q, x = .setSequence q ∧ l.account.sequence = q)

theorem call_shape {x : Errand} {s : Scene Scripted} (y : Call)
    (h : x.run s = y.run Scripted.client s) :
    (∃ order, x.run s = (submit Scripted.client order s).2) ∨ MovesLedger x s := by
  rcases y.run_shape Scripted.client s with ⟨order, hrun⟩ | ⟨contract, msg, hrun⟩ | hrun
  · exact .inl ⟨order, h.trans hrun⟩
  · exact .inr ⟨s.world.ledger, by rw [h, hrun]; rfl, .inl rfl⟩
  · exact .inr ⟨s.world.ledger, h.trans hrun, .inl rfl⟩

theorem run_shape (x : Errand) (s : Scene Scripted) :
    (∃ order, x.run s = (submit Scripted.client order s).2) ∨ MovesLedger x s := by
  cases x with
  | push answer => exact .inr ⟨_, rfl, .inl rfl⟩
  | pushSuccess events => exact .inr ⟨_, rfl, .inl rfl⟩
  | pushMismatch => exact .inr ⟨_, rfl, .inl rfl⟩
  | setSequence q => exact .inr ⟨_, rfl, .inr ⟨q, rfl, rfl⟩⟩
  | submit order => exact call_shape (.submit order) rfl
  | deployCode bytecode fee => exact call_shape (.deployCode bytecode fee) rfl
  | instantiate codeId msg migratable fee =>
    exact call_shape (.instantiate codeId msg migratable fee) rfl
  | invoke contract msg funds fee => exact call_shape (.invoke contract msg funds fee) rfl
  | query contract msg => exact call_shape (.query contract msg) rfl

def after (l : Scripted) : Contact → Scripted
  | .sent e _ => (l.receive e).2
  | _ => l

inductive Entry where
  | heard (ledger : Scripted) (x : Contact)
  | done (s : Scene Scripted) (x : Errand)

def moments : Scripted → List Contact → List Entry
  | _, [] => []
  | l, x :: xs => .heard l x :: moments (after l x) xs

def chronicle : List Errand → Scene Scripted → List Entry
  | [], _ => []
  | x :: xs, s => moments s.world.ledger (x.contacts s) ++ .done s x :: chronicle xs (x.run s)

/-- The contacts of a step lead the ledger where the step leaves it. -/
theorem Dealt.replayed {address : String} {secs : UInt64} {l l' : Scripted} {heard : List Contact}
    (h : Dealt Scripted.client address secs l heard l') : heard.foldl after l = l' := by
  induction h with
  | done => rfl
  | looked _ ih => exact ih
  | sent _ ih =>
    rw [answered_scripted] at ih
    exact ih
  | rested _ ih => exact ih

/-- How a step leaves the wallet and the ledger. A lookup that succeeds goes before every envelope that
is built. -/
structure LeftInStep (s t : Scene Scripted) (heard : List Contact) : Prop where
  behind : t.session.wallet.sequence ≤ t.world.ledger.account.sequence
  level : s.session.conflictCodes = [] → (∃ a info, .looked a (.ok info) ∈ heard) →
    t.session.wallet.sequence = t.world.ledger.account.sequence
  replayed : heard ≠ [] → heard.foldl after s.world.ledger = t.world.ledger

namespace Entry

def ledger : Entry → Scripted
  | heard l _ => l
  | done s x => (x.run s).world.ledger

def Below (y : Entry) : Prop := y.ledger.account.sequence < Counters.lastSequence

def Raises : Entry → Prop
  | done s (.setSequence q) => s.world.ledger.account.sequence ≤ q
  | _ => True

/-- A broadcast carries the ledger's sequence and is answered from the script, and a step leaves the
wallet behind the ledger or at one with it. -/
def InStep : Entry → Prop
  | heard l (.sent e answer) => e.sequence = l.account.sequence ∧ answer = l.next
  | heard _ _ => True
  | done s x => LeftInStep s (x.run s) (x.contacts s)

end Entry

/-- Every entry is in step for as long as the ledger can count on and is not taken back. -/
def InStepThroughout (ys : List Entry) : Prop :=
  ∀ before y after, ys = before ++ y :: after → (∀ x ∈ before, x.Below) →
    (∀ x ∈ before ++ [y], x.Raises) → y.InStep

theorem inStepThroughout_nil : InStepThroughout [] := by
  intro before y after h
  simp at h

theorem inStepThroughout_cons {y : Entry} {ys : List Entry} :
    InStepThroughout (y :: ys) ↔
      y.Raises → y.InStep ∧ (y.Below → InStepThroughout ys) := by
  constructor
  · intro h raises
    refine ⟨h [] y ys rfl (by simp) (by simpa using raises), ?_⟩
    intro below before z after hs hbelow hraises
    refine h (y :: before) z after (by rw [hs]; rfl) ?_ ?_
    · simpa using ⟨below, hbelow⟩
    · simpa using ⟨raises, by simpa using hraises⟩
  · intro h before z after hs hbelow hraises
    cases before with
    | nil =>
      obtain ⟨rfl, rfl⟩ := List.cons.inj hs
      exact (h (hraises _ (by simp))).1
    | cons x before =>
      obtain ⟨rfl, rfl⟩ := List.cons.inj hs
      exact (h (hraises _ (by simp))).2 (hbelow _ (by simp)) before z after rfl
        (fun x hx => hbelow x (.tail _ hx)) (fun x hx => hraises x (.tail _ hx))

theorem InStepThroughout.append {xs ys : List Entry} (hx : InStepThroughout xs)
    (hy : (∀ x ∈ xs, x.Below) → InStepThroughout ys) : InStepThroughout (xs ++ ys) := by
  induction xs with
  | nil => exact hy (by simp)
  | cons x xs ih =>
    rw [inStepThroughout_cons] at hx
    rw [List.cons_append, inStepThroughout_cons]
    intro raises
    obtain ⟨hhead, htail⟩ := hx raises
    refine ⟨hhead, ?_⟩
    intro below
    exact ih (htail below) fun h => hy (by simpa using ⟨below, h⟩)

theorem moments_round {l l' : Scripted} {m : Counters} {e : Envelope}
    {answer : Except Failure Receipt} (h : Admitted l m e answer l') (a : String)
    (looked : Except Failure AccountInfo) (heard : List Contact) :
    moments l (.looked a looked :: .sent e answer :: heard) =
      .heard l (.looked a looked) :: .heard l (.sent e answer) :: moments l' heard := by
  simp [moments, after, h.received]

/-- A round is in step, and so is what follows it if the ledger can count on. -/
theorem Admitted.inStep {l l' : Scripted} {m : Counters} {e : Envelope}
    {answer : Except Failure Receipt} (h : Admitted l m e answer l') (a : String)
    (looked : Except Failure AccountInfo) {heard : List Contact}
    (rest : l.account.sequence < Counters.lastSequence → InStepThroughout (moments l' heard)) :
    InStepThroughout (moments l (.looked a looked :: .sent e answer :: heard)) := by
  rw [moments_round h, inStepThroughout_cons]
  refine fun _ => ⟨trivial, fun below => ?_⟩
  rw [inStepThroughout_cons]
  exact fun _ => ⟨⟨h.sequence, h.scripted⟩, rest⟩

/-- Every broadcast of a submission is in step if the wallet is not ahead of the ledger. -/
theorem Course.inStep {s : Session} {order : Order} {k : Nat} {n n' : Counters} {l l' : Scripted}
    {heard : List Contact} {result : Except Failure Submission}
    (h : Course Scripted.client s order k n l heard result n' l')
    (behind : n.sequence ≤ l.account.sequence) : InStepThroughout (moments l heard) := by
  induction h with
  | unanswered _ | refused _ _ =>
    exact inStepThroughout_cons.mpr fun _ => ⟨trivial, fun _ => inStepThroughout_nil⟩
  | unsent made | rejected made _ | succeeded made _ | exhausted made _ _ =>
    exact (made.admitted behind).inStep _ _ fun _ => inStepThroughout_nil
  | again made _ _ _ ih =>
    refine (made.admitted behind).inStep _ _ fun below => ?_
    rw [moments, inStepThroughout_cons]
    exact fun _ => ⟨trivial, fun _ => ih ((made.admitted behind).behind below)⟩

/-- How a submission leaves the wallet and the ledger. -/
theorem Course.left {s : Session} {order : Order} {k : Nat} {n n' : Counters} {l l' : Scripted}
    {heard : List Contact} {result : Except Failure Submission}
    (h : Course Scripted.client s order k n l heard result n' l')
    (behind : n.sequence ≤ l.account.sequence) (below : ∀ y ∈ moments l heard, y.Below) :
    n'.sequence ≤ l'.account.sequence ∧
      (s.conflictCodes = [] → n'.sequence = l'.account.sequence) := by
  induction h with
  | unanswered looked => cases looked
  | @refused k n l info f looked refusal =>
    have hinfo : l.account = info := Except.ok.inj looked
    have hlevel : (adopted (0 < k) n info).sequence = l.account.sequence := by
      rw [← hinfo]
      exact adopted_sequence _ behind
    exact ⟨UInt64.le_of_eq hlevel, fun _ => hlevel⟩
  | unsent made =>
    have hlevel := (made.admitted behind).unmoved (by simp)
    exact ⟨UInt64.le_of_eq hlevel, fun _ => hlevel⟩
  | rejected made failed =>
    have hlevel := (made.admitted behind).level s.conflictCodes (below _ (.head _))
      (by simp [failed])
    simp only [credits, failed] at hlevel
    exact ⟨UInt64.le_of_eq hlevel, fun _ => hlevel⟩
  | succeeded made success =>
    have hlevel := (made.admitted behind).level s.conflictCodes (below _ (.head _))
      (by simp [success])
    simp only [credits, success, if_true] at hlevel
    exact ⟨UInt64.le_of_eq hlevel, fun _ => hlevel⟩
  | @exhausted k n l info m e r l' made conflict spent =>
    refine ⟨(made.admitted behind).behind (below _ (.head _)), ?_⟩
    intro plain
    rw [plain] at conflict
    refine (made.admitted behind).unmoved ?_
    rintro _ ⟨⟩
    exact consumes_of_mismatch (Receipt.verdict_eq_conflict_iff.mp conflict)
  | again made conflict left rest ih =>
    rw [moments_round (made.admitted behind), moments] at below
    refine ih ((made.admitted behind).behind (below _ (.head _))) ?_
    intro y hy
    exact below y (.tail _ (.tail _ (.tail _ hy)))

/-- A step that submits is in step, and leaves the wallet and the ledger so. -/
theorem submit_inStep (order : Order) (s : Scene Scripted)
    (behind : s.session.wallet.sequence ≤ s.world.ledger.account.sequence) :
    ∃ heard, (submit Scripted.client order s).2.world.journal = s.world.journal ++ heard ∧
      InStepThroughout (moments s.world.ledger heard) ∧
      ((∀ y ∈ moments s.world.ledger heard, y.Below) →
        LeftInStep s (submit Scripted.client order s).2 heard) := by
  obtain ⟨heard, n', hj, hs, hcourse⟩ := submit_course Scripted.client order s
  refine ⟨heard, hj, hcourse.inStep behind, ?_⟩
  intro below
  obtain ⟨hbehind, hlevel⟩ := hcourse.left behind below
  rw [← show (submit Scripted.client order s).2.session.wallet.sequence = n'.sequence by
    rw [hs]; rfl] at hbehind hlevel
  exact ⟨hbehind, fun plain _ => hlevel plain, fun _ => hcourse.dealt.replayed⟩

theorem contacts_of_journal {x : Errand} {s : Scene Scripted} {heard : List Contact}
    (h : (x.run s).world.journal = s.world.journal ++ heard) : x.contacts s = heard := by
  rw [Errand.contacts, h, List.drop_left]

/-- What happens in one step is in step, and leaves the wallet and the ledger so. -/
theorem run_inStep (x : Errand) (s : Scene Scripted)
    (behind : s.session.wallet.sequence ≤ s.world.ledger.account.sequence) :
    InStepThroughout (moments s.world.ledger (x.contacts s)) ∧
      ((∀ y ∈ moments s.world.ledger (x.contacts s), y.Below) → (Entry.done s x).Raises →
        LeftInStep s (x.run s) (x.contacts s)) := by
  rcases run_shape x s with ⟨order, hrun⟩ | ⟨l, hrun, haccount⟩
  · obtain ⟨heard, hj, hthroughout, hleft⟩ := submit_inStep order s behind
    rw [← hrun] at hj hleft
    rw [contacts_of_journal hj]
    exact ⟨hthroughout, fun below _ => hleft below⟩
  · have hnone : x.contacts s = [] := contacts_of_journal (by rw [hrun]; simp)
    rw [hnone]
    refine ⟨inStepThroughout_nil, fun _ raises => ⟨?_, by simp, by simp⟩⟩
    rw [hrun]
    rcases haccount with hsame | ⟨q, rfl, hq⟩
    · rw [hsame]
      exact behind
    · rw [hq]
      exact UInt64.le_trans behind raises

/-- A run is in step. -/
theorem chronicle_inStepThroughout (xs : List Errand) (s : Scene Scripted)
    (behind : s.session.wallet.sequence ≤ s.world.ledger.account.sequence) :
    InStepThroughout (chronicle xs s) := by
  induction xs generalizing s with
  | nil => exact inStepThroughout_nil
  | cons x xs ih =>
    obtain ⟨hthroughout, hleft⟩ := run_inStep x s behind
    refine hthroughout.append fun below => ?_
    rw [inStepThroughout_cons]
    intro raises
    exact ⟨hleft below raises, fun _ => ih (x.run s) (hleft below raises).behind⟩

/-- Whatever is asked of a session and whatever the script holds, each broadcast carries the ledger's
sequence, so that a ledger that enforces it refuses none, and each step leaves the wallet behind the
ledger or, where no code is taken for a conflict, at one with it. -/
theorem chronicle_inStep (xs : List Errand) (s : Scene Scripted)
    (behind : s.session.wallet.sequence ≤ s.world.ledger.account.sequence)
    (before after : List Entry) (y : Entry) (happened : chronicle xs s = before ++ y :: after)
    (below : ∀ x ∈ before, x.Below) (raises : ∀ x ∈ before ++ [y], x.Raises) : y.InStep :=
  chronicle_inStepThroughout xs s behind before y after happened below raises

instance (y : Entry) : Decidable y.Below :=
  inferInstanceAs (Decidable (y.ledger.account.sequence < Counters.lastSequence))

instance : (y : Entry) → Decidable y.Raises
  | .heard _ _ => .isTrue trivial
  | .done s x => by
    unfold Entry.Raises
    cases x <;> infer_instance

def firmScene : Scene Scripted :=
  ⟨{ leastSession with conflictCodes := [⟨"sdk", 32⟩] },
    { ledger := { chainId := "localterra", enforcing := true, account := ⟨1, 7⟩ } }⟩

def firmErrands : List Errand :=
  [.push (.ok { height := 7, code := 32, codespace := "sdk" }), .pushSuccess [], .setSequence 9,
    .submit leastOrder]

/-- The conflict consumed a sequence without the wallet's notice, and the next broadcast is in step all
the same. -/
theorem chronicle_inStep_again :
    let ys := chronicle firmErrands firmScene
    ∃ y, firmScene.session.wallet.sequence ≤ firmScene.world.ledger.account.sequence ∧
      ys = ys.take 7 ++ y :: ys.drop 8 ∧ (∀ x ∈ ys.take 7, x.Below) ∧
      (∀ x ∈ ys.take 7 ++ [y], x.Raises) ∧ (∃ l e r, y = .heard l (.sent e (.ok r))) ∧ y.InStep :=
  ⟨_, by decide, rfl, by decide, by decide, ⟨_, _, _, rfl⟩,
    chronicle_inStep firmErrands firmScene (by decide) ((chronicle firmErrands firmScene).take 7)
      ((chronicle firmErrands firmScene).drop 8) _ rfl (by decide) (by decide)⟩

end TxDispatch.Proofs
