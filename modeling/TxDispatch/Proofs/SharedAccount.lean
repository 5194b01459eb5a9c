import TxDispatch.Proofs.Crowd

namespace TxDispatch.Proofs

open Scene Scripted

variable {ι : Type} [DecidableEq ι]

/-- What a turn does to the ledger: it consumes the sequence that the ledger is at, or none. -/
structure Advanced (l : Scripted) (deed : Progress) (l' : Scripted) : Prop where
  enforcing : l'.enforcing = l.enforcing
  script : l'.script ⊆ l.script
  sequence : l'.account.sequence =
    if deed.taken?.isSome then l.account.sequence + 1 else l.account.sequence
  taken : ∀ e, deed.taken? = some e → e.sequence = l.account.sequence

theorem Advanced.still {l : Scripted} {deed : Progress} (h : deed.taken? = none) :
    Advanced l deed l :=
  ⟨rfl, List.Subset.refl _, by simp [h], by simp [h]⟩

theorem Advanced.consumed {l l' : Scripted} {deed : Progress} {e : Envelope} (h : Advanced l deed l')
    (below : ∀ e', deed.taken? = some e' → e'.sequence < Counters.lastSequence)
    (used : deed.taken? = some e) : e.sequence < l'.account.sequence := by
  have hlast := below e used
  rw [h.sequence, used, h.taken e used]
  rw [h.taken e used] at hlast
  simpa [after_of_lt hlast] using lt_after hlast

theorem Advanced.rises {l l' : Scripted} {deed : Progress} (h : Advanced l deed l')
    (below : ∀ e', deed.taken? = some e' → e'.sequence < Counters.lastSequence) :
    l.account.sequence ≤ l'.account.sequence := by
  cases used : deed.taken? with
  | none => exact UInt64.le_of_eq (by simp [h.sequence, used])
  | some e =>
    rw [← h.taken e used]
    exact UInt64.le_of_lt (h.consumed below used)

theorem receive_advanced {l : Scripted} (enforcing : l.enforcing = true) (e : Envelope) :
    Advanced l (.sent e (l.receive e).1) (l.receive e).2 := by
  by_cases level : e.sequence = l.account.sequence
  · obtain ⟨hanswer, haccount, henforcing, hscript⟩ := receive_next level
    rw [hanswer]
    refine ⟨henforcing, ?_, ?_, ?_⟩
    · rw [hscript]
      exact (List.tail_sublist l.script).subset
    · rw [haccount]
      cases l.next with
      | error f => rfl
      | ok r => by_cases h : consumes r = true <;> simp [accountAfter, Progress.taken?, h]
    · intro e' he'
      cases hnext : l.next with
      | error f => simp [hnext, Progress.taken?] at he'
      | ok r =>
        simp only [hnext, Progress.taken?, Option.ite_none_right_eq_some, Option.some.injEq] at he'
        rw [← he'.2]
        exact level
  · rw [receive_refused enforcing level]
    have hnone : (Progress.sent e (.ok mismatch)).taken? = none := rfl
    exact ⟨rfl, List.Subset.refl _, by simp [hnone], by simp [hnone]⟩

theorem turn_advanced (t : Task) (s : Session) {l : Scripted} (enforcing : l.enforcing = true) :
    Advanced l (t.turn Scripted.client s l).deed (t.turn Scripted.client s l).ledger := by
  obtain ⟨order, made, stage⟩ := t
  cases stage with
  | looking => exact .still rfl
  | signing =>
    have hturn := turn_signing Scripted.client s order made s.wallet.counters l
    cases hsealed : sealed s order s.wallet.counters with
    | error f | ok e =>
      rw [hsealed] at hturn
      exact hturn ▸ .still rfl
  | sending e =>
    rw [turn_sending, answered_scripted]
    exact receive_advanced enforcing e
  | settling e r =>
    have hturn := turn_settling Scripted.client s order made s.wallet.counters e r l
    cases hv : r.verdict s.conflictCodes with
    | conflict | succeeded | failed code codespace rawLog =>
      rw [hv] at hturn
      exact hturn ▸ .still rfl
  | ending result => exact .still rfl

theorem sealed_unexhausted (s : Session) (order : Order) (n : Counters) (spent : UInt32) :
    sealed s order n ≠ .error (.retryExhausted spent) := by
  intro h
  rcases sealed_error h with ⟨e, _, hf⟩ | ⟨_, e, _, hf⟩
  · cases hf
  · cases hf

/-- Advancing past a sequence that the ledger has consumed does not take a wallet ahead. -/
theorem advancePast_le {n : Counters} {used q : UInt64} (behind : n.sequence ≤ q) (spent : used < q) :
    (n.advancePast used).sequence ≤ q := by
  have hafter : Counters.after used ≤ q := by
    rw [UInt64.lt_iff_toNat_lt] at spent
    rw [UInt64.le_iff_toNat_le, Counters.after_toNat]
    omega
  simp only [Counters.advancePast, max]
  split
  · exact hafter
  · exact behind

theorem made_succ {made most : UInt32} (left : made < most) :
    (made + 1).toNat = made.toNat + 1 ∧ 0 < made + 1 ∧ made + 1 ≤ most := by
  have hmost := most.toNat_lt
  rw [UInt32.lt_iff_toNat_lt] at left
  have hsucc : (made + 1).toNat = made.toNat + 1 := by
    rw [UInt32.toNat_add, UInt32.toNat_one]
    omega
  refine ⟨hsucc, ?_, ?_⟩
  · rw [UInt32.lt_iff_toNat_lt, hsucc]
    simp
  · rw [UInt32.le_iff_toNat_le, hsucc]
    exact left

/-- A turn leaves the session and the submission as they should be, and what it did was charged. -/
def Accounted (i : ι) (xs : List (Occurrence ι)) (u : Turn Scripted) : Prop :=
  (Occurrence.did i u.deed).Charged xs ∧
    Fits i (xs ++ [.did i u.deed]) u.ledger.account.sequence u.session u.task

/-- A mismatch that does not stand in the script is the answer to another sequence than the ledger's. -/
theorem stale_of_mismatch {l : Scripted} {e : Envelope} {r : Receipt}
    (script : ∀ r, .ok r ∈ l.script → r.rawLog ≠ mismatchLog) (answer : (l.receive e).1 = .ok r)
    (lost : r.rawLog = mismatchLog) : e.sequence ≠ l.account.sequence := by
  intro level
  rw [(receive_next level).1] at answer
  refine script r ?_ lost
  cases hs : l.script with
  | nil => simp [next, hs] at answer
  | cons first rest =>
    have hfirst : first = .ok r := by simpa [next, hs] using answer
    rw [hfirst]
    exact .head _

section Stages

variable {i : ι} {xs during : List (Occurrence ι)} {l : Scripted} {s : Session} {made : UInt32}
  (order : Order) (plain : s.conflictCodes = []) (behind : s.wallet.sequence ≤ l.account.sequence)
  (began : Since (Occurrence.Starts i) xs during)

include plain behind began

theorem accounted_looking
    (tied : Stage.Tied i xs during l.account.sequence s made .looking) :
    Accounted i xs ((Task.mk order made .looking).turn Scripted.client s l) := by
  have hturn : (Task.mk order made .looking).turn Scripted.client s l = _ :=
    turn_looking order made s.wallet.counters rfl
  rw [hturn]
  have hlevel := adopted_sequence (0 < made) behind
  refine ⟨trivial, plain, UInt64.le_of_eq hlevel, ?_⟩
  rintro _ ⟨⟩
  refine ⟨_, began.snoc id, tied.1, [], .now _ rfl, ?_, fun _ => hlevel⟩
  rw [moves_snoc, own_moves]
  exact tied.2

theorem accounted_signing
    (tied : Stage.Tied i xs during l.account.sequence s made .signing) :
    Accounted i xs ((Task.mk order made .signing).turn Scripted.client s l) := by
  have hturn : (Task.mk order made .signing).turn Scripted.client s l = _ :=
    turn_signing Scripted.client s order made s.wallet.counters l
  rw [hturn]
  cases hsealed : sealed s order s.wallet.counters with
  | error f =>
    refine ⟨trivial, plain, behind, ?_⟩
    rintro _ ⟨⟩
    refine ⟨_, began.snoc id, fun n hn => ?_⟩
    rw [Except.error.inj hn] at hsealed
    exact absurd hsealed (sealed_unexhausted s order _ n)
  | ok e =>
    refine ⟨trivial, plain, behind, ?_⟩
    rintro _ ⟨⟩
    exact ⟨_, began.snoc id, Poised.snoc tied id (.inr rfl), sealed_sequence hsealed⟩

theorem accounted_sending {e : Envelope} (enforcing : l.enforcing = true)
    (script : ∀ r, .ok r ∈ l.script → r.rawLog ≠ mismatchLog)
    (tied : Stage.Tied i xs during l.account.sequence s made (.sending e))
    (below : ∀ e', (Progress.sent e (l.receive e).1).taken? = some e' →
      e'.sequence < Counters.lastSequence) :
    Accounted i xs ((Task.mk order made (.sending e)).turn Scripted.client s l) := by
  rw [turn_sending, answered_scripted]
  obtain ⟨⟨left, between, looked, charged, hlevel⟩, hsigned⟩ := tied
  have hadvanced := receive_advanced enforcing e
  have hrises := UInt64.le_trans behind (hadvanced.rises below)
  cases hanswer : (l.receive e).1 with
  | error f =>
    refine ⟨trivial, plain, hrises, ?_⟩
    rintro _ ⟨⟩
    refine ⟨_, began.snoc id, ?_⟩
    rintro n ⟨⟩
    exact .inr ⟨e, by simp⟩
  | ok r =>
    -- Without a move since the lookup the envelope would carry the ledger's own sequence.
    have moved (lost : r.rawLog = mismatchLog) : 0 < moves i between := by
      apply Nat.pos_of_ne_zero
      intro hzero
      exact stale_of_mismatch script hanswer lost (hsigned.trans (hlevel hzero))
    refine ⟨fun lost => ⟨between, looked, moved lost⟩, plain, hrises, ?_⟩
    rintro _ ⟨⟩
    obtain ⟨hsucc, hpos, hmost⟩ := made_succ left
    refine ⟨_, began.snoc id, ⟨hpos, hmost⟩, fun lost => ?_, fun hused => ?_⟩
    · have hmoved := moved lost
      rw [moves_snoc, own_moves, hsucc]
      omega
    · exact hadvanced.consumed below (by simp [hanswer, Progress.taken?, hused])

theorem accounted_settling {e : Envelope} {r : Receipt}
    (tied : Stage.Tied i xs during l.account.sequence s made (.settling e r)) :
    Accounted i xs ((Task.mk order made (.settling e r)).turn Scripted.client s l) := by
  have hturn : (Task.mk order made (.settling e r)).turn Scripted.client s l = _ :=
    turn_settling Scripted.client s order made s.wallet.counters e r l
  rw [hturn]
  obtain ⟨⟨pos, within⟩, lost, spent⟩ := tied
  cases hv : r.verdict s.conflictCodes with
  | conflict =>
    have hmoves : made.toNat ≤ moves i (during ++ [.did i .settled]) := by
      rw [plain] at hv
      rw [moves_snoc, own_moves]
      exact lost (Receipt.verdict_eq_conflict_iff.mp hv)
    refine ⟨trivial, plain, behind, ?_⟩
    rintro _ ⟨⟩
    refine ⟨_, began.snoc id, ?_⟩
    cases hmore : s.backoff.allowsAnother made with
    | true => exact ⟨of_decide_eq_true hmore, hmoves⟩
    | false =>
      rintro n ⟨⟩
      exact .inl ⟨pos, hmoves⟩
  | succeeded =>
    have hsettled : r.verdict s.conflictCodes ≠ .conflict := by simp [hv]
    have hused : consumes r = true := by
      rw [consumes_eq_credits hsettled]
      simp [credits, hv]
    refine ⟨trivial, plain, advancePast_le behind (spent hused), ?_⟩
    rintro _ ⟨⟩
    exact ⟨_, began.snoc id, fun n hn => absurd hn (conclude_unexhausted _ _ _ n)⟩
  | failed code codespace rawLog =>
    have hsettled : r.verdict s.conflictCodes ≠ .conflict := by simp [hv]
    refine ⟨trivial, plain, ?_, ?_⟩
    · show Counters.sequence (if r.isIncluded then _ else _) ≤ _
      split
      · rename_i included
        refine advancePast_le behind (spent ?_)
        rw [consumes_eq_credits hsettled]
        simp [credits, hv, included]
      · exact behind
    · rintro _ ⟨⟩
      exact ⟨_, began.snoc id, fun n hn => by cases hn⟩

theorem accounted_ending {result : Except Failure Submission}
    (tied : Stage.Tied i xs during l.account.sequence s made (.ending result)) :
    Accounted i xs ((Task.mk order made (.ending result)).turn Scripted.client s l) := by
  refine ⟨?_, plain, behind, fun t ht => by cases ht⟩
  cases result with
  | ok done => trivial
  | error f =>
    cases f with
    | retryExhausted n => exact ⟨during, began, tied n rfl⟩
    | _ => trivial

end Stages

/-- Every turn of a submission is accounted for. -/
theorem Fits.accounted {i : ι} {xs : List (Occurrence ι)} {l : Scripted} {s : Session} {t : Task}
    (h : Fits i xs l.account.sequence s (some t)) (enforcing : l.enforcing = true)
    (script : ∀ r, .ok r ∈ l.script → r.rawLog ≠ mismatchLog)
    (below : ∀ e, (t.turn Scripted.client s l).deed.taken? = some e →
      e.sequence < Counters.lastSequence) :
    Accounted i xs (t.turn Scripted.client s l) := by
  obtain ⟨during, began, tied⟩ := h.tied t rfl
  obtain ⟨order, made, stage⟩ := t
  cases stage with
  | looking => exact accounted_looking order h.plain h.behind began tied
  | signing => exact accounted_signing order h.plain h.behind began tied
  | sending e =>
    rw [turn_sending, answered_scripted] at below
    exact accounted_sending order h.plain h.behind began enforcing script tied below
  | settling e r => exact accounted_settling order h.plain h.behind began tied
  | ending result => exact accounted_ending order h.plain h.behind began tied

/-- Before anything has happened: the ledger enforces sequences and no entry of its script is a
mismatch, no session takes a code for a conflict, no wallet is ahead and no lock is taken. -/
structure Unstarted (k : Crowd ι) : Prop where
  enforcing : k.ledger.enforcing = true
  script : ∀ r, .ok r ∈ k.ledger.script → r.rawLog ≠ mismatchLog
  plain : ∀ i, (k.parties i).session.conflictCodes = []
  behind : ∀ i, (k.parties i).session.wallet.sequence ≤ k.ledger.account.sequence
  idle : ∀ i, (k.parties i).running = none
  history : k.history = []

/-- What every action keeps as long as no envelope consumes the last sequence. -/
structure Ordered (k : Crowd ι) : Prop where
  enforcing : k.ledger.enforcing = true
  script : ∀ r, .ok r ∈ k.ledger.script → r.rawLog ≠ mismatchLog
  fits : ∀ i, Fits i k.history k.ledger.account.sequence (k.parties i).session (k.parties i).running
  below : ∀ e ∈ taken k.history, e.sequence < k.ledger.account.sequence
  distinct : ((taken k.history).map Envelope.sequence).Nodup
  charged : ∀ before x after, k.history = before ++ x :: after → x.Charged before

omit [DecidableEq ι] in
theorem taken_snoc (xs : List (Occurrence ι)) (x : Occurrence ι) :
    taken (xs ++ [x]) = taken xs ++ x.taken?.toList := by
  cases h : x.taken? <;> simp [taken, h]

/-- An element of a list with one more is the last, or is in the list. -/
theorem snoc_split {α : Type} {xs before after : List α} {x y : α}
    (h : xs ++ [x] = before ++ y :: after) :
    (xs = before ∧ x = y) ∨ ∃ rest, xs = before ++ y :: rest := by
  rcases List.eq_nil_or_concat after with rfl | ⟨rest, z, rfl⟩
  · obtain ⟨hxs, hx⟩ := List.append_inj' h rfl
    exact .inl ⟨hxs, List.singleton_inj.mp hx⟩
  · have hsplit : xs ++ [x] = (before ++ y :: rest) ++ [z] := by simpa using h
    exact .inr ⟨rest, (List.append_inj' hsplit rfl).1⟩

theorem fits_update {xs : List (Occurrence ι)} {q : UInt64} {parties : ι → Party} {i : ι} {p : Party}
    (own : Fits i xs q p.session p.running)
    (others : ∀ j, j ≠ i → Fits j xs q (parties j).session (parties j).running) (j : ι) :
    Fits j xs q (Function.update parties i p j).session (Function.update parties i p j).running := by
  by_cases hj : j = i
  · subst hj
    rw [Function.update_self]
    exact own
  · rw [Function.update_of_ne hj]
    exact others j hj

theorem Unstarted.ordered {k : Crowd ι} (h : Unstarted k) : Ordered k := by
  refine ⟨h.enforcing, h.script, fun i => ⟨h.plain i, h.behind i, ?_⟩, ?_, ?_, ?_⟩
  · simp [h.idle i]
  · simp [h.history, taken]
  · simp [h.history, taken]
  · simp [h.history]

namespace Ordered

variable {k : Crowd ι}

/-- An occurrence keeps the order if it is charged, if the sessions fit it, and if what it consumes is
the sequence that the ledger was at and now is past. -/
theorem note (h : Ordered k) {x : Occurrence ι} {l : Scripted} {parties : ι → Party}
    (enforcing : l.enforcing = true) (script : l.script ⊆ k.ledger.script)
    (rises : k.ledger.account.sequence ≤ l.account.sequence)
    (consumed : ∀ e, x.taken? = some e →
      e.sequence = k.ledger.account.sequence ∧ e.sequence < l.account.sequence)
    (charged : x.Charged k.history)
    (fits : ∀ i, Fits i (k.history ++ [x]) l.account.sequence (parties i).session
      (parties i).running) : Ordered ⟨l, parties, k.history ++ [x]⟩ := by
  have hbelow (e : Envelope) (he : e ∈ taken k.history) : e.sequence < l.account.sequence :=
    UInt64.lt_of_lt_of_le (h.below e he) rises
  refine ⟨enforcing, fun r hr => h.script r (script hr), fits, ?_, ?_, ?_⟩
  · simp only [taken_snoc, List.mem_append, Option.mem_toList]
    rintro e (he | he)
    · exact hbelow e he
    · exact (consumed e he).2
  · simp only [taken_snoc]
    cases hx : x.taken? with
    | none => simpa using h.distinct
    | some e =>
      have hnew : e.sequence ∉ (taken k.history).map Envelope.sequence := by
        intro hmem
        obtain ⟨e', he', heq⟩ := List.mem_map.mp hmem
        have hlt := h.below e' he'
        rw [heq, (consumed e hx).1] at hlt
        exact UInt64.lt_irrefl _ hlt
      rw [Option.toList_some, List.map_append, List.map_singleton, List.nodup_append]
      refine ⟨h.distinct, by simp, ?_⟩
      intro q hq q' hq'
      rw [List.mem_singleton.mp hq']
      exact ne_of_mem_of_not_mem hq hnew
  · intro before y after hs
    rcases snoc_split hs with ⟨rfl, rfl⟩ | ⟨rest, hrest⟩
    · exact charged
    · exact h.charged before y rest hrest

/-- What does not touch a session leaves it fitting. -/
theorem others (h : Ordered k) {x : Occurrence ι} {l : Scripted} {i : ι}
    (rises : k.ledger.account.sequence ≤ l.account.sequence)
    (moved : x.moves i = true ∨ l.account.sequence = k.ledger.account.sequence)
    (quiet : ¬ x.Looks i) (unlocked : ¬ x.Starts i) :
    Fits i (k.history ++ [x]) l.account.sequence (k.parties i).session (k.parties i).running :=
  (h.fits i).snoc quiet unlocked moved rises

theorem call (h : Ordered k) (i : ι) (order : Order) : Ordered (k.act (.call i order)) := by
  exact { h with fits := fits_update (h.fits i) fun j _ => h.fits j }

theorem lock (h : Ordered k) (i : ι) (place : Nat) : Ordered (k.act (.lock i place)) := by
  simp only [Crowd.act]
  split
  · rename_i order idle waits
    refine h.note h.enforcing (List.Subset.refl _) (UInt64.le_refl _) (by simp [Occurrence.taken?])
      trivial (fits_update ⟨(h.fits i).plain, (h.fits i).behind, ?_⟩ ?_)
    · rintro _ ⟨⟩
      exact ⟨[], .now _ rfl, (k.parties i).session.backoff.pos, Nat.zero_le _⟩
    · intro j hj
      exact h.others (UInt64.le_refl _) (.inr rfl) id (Ne.symm hj)
  · exact h

theorem raise (h : Ordered k) (q : UInt64) : Ordered (k.act (.raise q)) := by
  simp only [Crowd.act]
  split
  · rename_i higher
    exact h.note h.enforcing (List.Subset.refl _) (UInt64.le_of_lt higher)
      (by simp [Occurrence.taken?]) trivial
      fun i => h.others (UInt64.le_of_lt higher) (.inl rfl) id id
  · exact h

theorem turn (h : Ordered k) (i : ι)
    (below : ∀ e ∈ taken (k.act (.turn i)).history, e.sequence < Counters.lastSequence) :
    Ordered (k.act (.turn i)) := by
  cases running : (k.parties i).running with
  | none =>
    have hact : k.act (.turn i) = k := by simp only [Crowd.act, running]
    rw [hact]
    exact h
  | some t =>
    obtain ⟨u, hu⟩ : ∃ u, t.turn Scripted.client (k.parties i).session k.ledger = u := ⟨_, rfl⟩
    have hact : k.act (.turn i) = (k.note (.did i u.deed) u.ledger).update i
        { k.parties i with session := u.session, running := u.task } := by
      simp only [Crowd.act, running, hu]
    rw [hact] at below ⊢
    have hbelow (e : Envelope) (he : u.deed.taken? = some e) : e.sequence < Counters.lastSequence := by
      refine below e ?_
      simp [Crowd.update, Crowd.note, taken_snoc, Occurrence.taken?, he]
    have hfits := h.fits i
    rw [running] at hfits
    have haccounted := hfits.accounted h.enforcing h.script (hu ▸ hbelow)
    have hadvanced := turn_advanced t (k.parties i).session h.enforcing
    rw [hu] at haccounted hadvanced
    have hrises := hadvanced.rises hbelow
    refine h.note (hadvanced.enforcing.trans h.enforcing) hadvanced.script hrises
      (fun e he => ⟨hadvanced.taken e he, hadvanced.consumed hbelow he⟩) haccounted.1
      (fits_update haccounted.2 fun j hj => h.others hrises ?_ (fun looks => hj looks.own.symm) id)
    cases hused : u.deed.taken? with
    | none =>
      have hsame := hadvanced.sequence
      rw [hused] at hsame
      exact .inr hsame
    | some e => exact .inl (by simp [Occurrence.moves, hused, Ne.symm hj])

/-- Every action keeps the order, if no envelope consumes the last sequence. -/
theorem act (h : Ordered k) (a : Action ι)
    (below : ∀ e ∈ taken (k.act a).history, e.sequence < Counters.lastSequence) :
    Ordered (k.act a) := by
  cases a with
  | call i order => exact h.call i order
  | lock i place => exact h.lock i place
  | turn i => exact h.turn i below
  | raise q => exact h.raise q

end Ordered

theorem act_history (k : Crowd ι) (a : Action ι) : k.history <+: (k.act a).history := by
  cases a with
  | call i order => exact List.prefix_rfl
  | lock i place =>
    simp only [Crowd.act]
    split
    · exact List.prefix_append _ _
    · exact List.prefix_rfl
  | turn i =>
    simp only [Crowd.act]
    split
    · exact List.prefix_rfl
    · exact List.prefix_append _ _
  | raise q =>
    simp only [Crowd.act]
    split
    · exact List.prefix_append _ _
    · exact List.prefix_rfl

theorem run_history (k : Crowd ι) (actions : List (Action ι)) :
    k.history <+: (k.run actions).history := by
  induction actions generalizing k with
  | nil => exact List.prefix_rfl
  | cons a actions ih => exact (act_history k a).trans (ih (k.act a))

/-- A run keeps the order. -/
theorem Ordered.run {k : Crowd ι} (h : Ordered k) (actions : List (Action ι))
    (below : ∀ e ∈ taken (k.run actions).history, e.sequence < Counters.lastSequence) :
    Ordered (k.run actions) := by
  induction actions generalizing k with
  | nil => exact h
  | cons a actions ih =>
    -- The history only grows, so that what holds of all of it held of it before.
    have hfirst : ∀ e ∈ taken (k.act a).history, e.sequence < Counters.lastSequence := by
      intro e he
      exact below e (((run_history (k.act a) actions).filterMap _).subset he)
    exact ih (h.act a hfirst) below

/-- What is promised of sessions on one account: no two envelopes consume the same sequence, no wallet
is ahead of the ledger, every mismatch and every submission that gives up is charged to others, and a
session that others leave alone meets neither of its own accord. -/
structure Orderly (k : Crowd ι) : Prop where
  distinct : ((taken k.history).map Envelope.sequence).Nodup
  behind : ∀ i, (k.parties i).session.wallet.sequence ≤ k.ledger.account.sequence
  charged : ∀ before x after, k.history = before ++ x :: after → x.Charged before
  undisturbed : ∀ i, moves i k.history = 0 →
    (∀ e r, .did i (.sent e (.ok r)) ∈ k.history → r.rawLog ≠ mismatchLog) ∧
      ∀ n, .did i (.ended (.error (.retryExhausted n))) ∈ k.history →
        ∃ e, .did i (.sent e (.error (.retryExhausted n))) ∈ k.history

omit [DecidableEq ι] in
theorem Since.mem {p : Occurrence ι → Prop} {xs between : List (Occurrence ι)} {x : Occurrence ι}
    (h : Since p xs between) (hx : x ∈ between) : x ∈ xs := by
  obtain ⟨earlier, y, rfl, _, _⟩ := h
  simp [hx]

theorem Ordered.undisturbed {k : Crowd ι} (h : Ordered k) {i : ι} (alone : moves i k.history = 0) :
    (∀ e r, .did i (.sent e (.ok r)) ∈ k.history → r.rawLog ≠ mismatchLog) ∧
      ∀ n, .did i (.ended (.error (.retryExhausted n))) ∈ k.history →
        ∃ e, .did i (.sent e (.error (.retryExhausted n))) ∈ k.history := by
  have hnone (before after : List (Occurrence ι)) (x : Occurrence ι)
      (hs : k.history = before ++ x :: after) : moves i before = 0 := by
    simp only [hs, moves, List.countP_append] at alone
    exact Nat.eq_zero_of_add_eq_zero_right alone
  constructor
  · intro e r hmem lost
    obtain ⟨before, after, hs⟩ := List.append_of_mem hmem
    obtain ⟨between, hsince, hmoved⟩ := h.charged before _ after hs lost
    have hle := hsince.moves_le i
    rw [hnone before after _ hs] at hle
    omega
  · intro n hmem
    obtain ⟨before, after, hs⟩ := List.append_of_mem hmem
    obtain ⟨during, hsince, ⟨hpos, hle⟩ | ⟨e, he⟩⟩ := h.charged before _ after hs
    · have hmoves := hsince.moves_le i
      rw [hnone before after _ hs] at hmoves
      rw [UInt32.lt_iff_toNat_lt, UInt32.toNat_zero] at hpos
      omega
    · exact ⟨e, by rw [hs]; exact List.mem_append_left _ (hsince.mem he)⟩

/-- In whatever order sessions on one account take their turns, they keep their promises for as long as
the last sequence is not consumed. -/
theorem run_orderly (k : Crowd ι) (actions : List (Action ι)) (unstarted : Unstarted k)
    (below : ∀ e ∈ taken (k.run actions).history, e.sequence < Counters.lastSequence) :
    Orderly (k.run actions) := by
  have h := unstarted.ordered.run actions below
  exact ⟨h.distinct, fun i => (h.fits i).behind, h.charged, fun i alone => h.undisturbed alone⟩

def racers : Crowd Bool where
  ledger := { chainId := "localterra", enforcing := true, account := ⟨1, 7⟩
              script := [.ok (Scripted.success 1 [])] }
  parties _ := { session := { leastSession with backoff := .of 1 250 4000 } }

/-- Both look the account up before either broadcasts. -/
def race : List (Action Bool) :=
  [.call true leastOrder, .call false leastOrder, .lock true 0, .lock false 0] ++
    (List.replicate 5 [.turn true, .turn false]).flatten

theorem racers_unstarted : Unstarted racers :=
  ⟨rfl, by simp [racers, Scripted.success, mismatchLog], fun _ => rfl, by decide, fun _ => rfl, rfl⟩

/-- The session that comes second gives up, for one move of the other. -/
theorem run_orderly_race :
    Unstarted racers ∧
      (∀ e ∈ taken (racers.run race).history, e.sequence < Counters.lastSequence) ∧
      moves false (racers.run race).history = 1 ∧
      (∃ before, (racers.run race).history =
        before ++ [.did false (.ended (.error (.retryExhausted 1)))]) ∧
      Orderly (racers.run race) :=
  ⟨racers_unstarted, by decide, by decide, ⟨(racers.run race).history.dropLast, rfl⟩,
    run_orderly racers race racers_unstarted (by decide)⟩

/-- Each submission that gives up after `n` broadcasts is charged to `n` moves of others. -/
def EachBudgetCharged (k : Crowd ι) : Prop :=
  ∀ before i n after, k.history = before ++ .did i (.ended (.error (.retryExhausted n))) :: after →
    ∃ during, Since (Occurrence.Starts i) before during ∧ n.toNat ≤ moves i during

def soloist (script : List (Except Failure Receipt)) (q : UInt64) : Crowd Unit where
  ledger := { chainId := "localterra", enforcing := true, account := ⟨1, q⟩, script }
  parties _ := { session := leastSession }

theorem soloist_unstarted {script : List (Except Failure Receipt)} (q : UInt64)
    (hscript : ∀ r, .ok r ∈ script → r.rawLog ≠ mismatchLog) : Unstarted (soloist script q) :=
  ⟨rfl, hscript, fun _ => rfl, fun _ => Nat.zero_le _, fun _ => rfl, rfl⟩

def solo : List (Action Unit) :=
  [.call () leastOrder, .lock () 0] ++ List.replicate 5 (.turn ())

/-- The ledger may answer with the error of a budget that is used up, which no move accounts for; and
the ledger that consumes the last sequence starts again, behind the wallet. -/
theorem run_not_orderly :
    (Unstarted (soloist [.error (.retryExhausted 3)] 7) ∧
      ¬ EachBudgetCharged ((soloist [.error (.retryExhausted 3)] 7).run solo)) ∧
    Unstarted (soloist [.ok (success 1 [])] Counters.lastSequence) ∧
      ¬ ∀ i, (((soloist [.ok (success 1 [])] Counters.lastSequence).run solo).parties
          i).session.wallet.sequence ≤
        ((soloist [.ok (success 1 [])] Counters.lastSequence).run solo).ledger.account.sequence := by
  refine ⟨⟨?_, fun charged => ?_⟩, ?_, fun behind => ?_⟩
  · exact soloist_unstarted 7 (by simp)
  · obtain ⟨during, hsince, hle⟩ := charged
      ((soloist [.error (.retryExhausted 3)] 7).run solo).history.dropLast () 3 [] rfl
    exact absurd (Nat.le_trans hle (hsince.moves_le ())) (by decide)
  · exact soloist_unstarted _ (by simp [success, mismatchLog])
  · exact absurd (behind ()) (by decide)

end TxDispatch.Proofs
