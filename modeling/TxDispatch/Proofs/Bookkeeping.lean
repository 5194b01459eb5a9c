import TxDispatch.Proofs.Journal

namespace TxDispatch.Proofs

open Scene

variable {σ : Type}

/-- Whether a session counts a sequence as consumed after an answer: the transaction succeeded, or it
was rejected in a block. -/
def credits (codes : List ConflictCode) (r : Receipt) : Bool :=
  match r.verdict codes with
  | .conflict => false
  | .failed _ _ _ => r.isIncluded
  | .succeeded => true

def conflicts (codes : List ConflictCode) : Contact → Bool
  | .sent _ (.ok r) =>
    match r.verdict codes with
    | .conflict => true
    | _ => false
  | _ => false

structure Copy where
  counters : Counters
  last : Option Contact := none

namespace Copy

/-- A rest was the last contact, so that the counters are known to be wrong. -/
def stale (w : Copy) : Bool :=
  match w.last with
  | some (.rested _) => true
  | _ => false

def learn (codes : List ConflictCode) (w : Copy) : Contact → Counters
  | .looked _ (.ok info) => adopted w.stale w.counters info
  | .sent e (.ok r) =>
    if credits codes r then w.counters.advancePast e.sequence else w.counters
  | _ => w.counters

def hear (codes : List ConflictCode) (w : Copy) (x : Contact) : Copy := ⟨w.learn codes x, some x⟩

end Copy

/-- A journal that takes a wallet's copy from one state to another. A broadcast carries the sequence
of the copy, and a rest comes after a conflict only. -/
inductive Kept (codes : List ConflictCode) : Copy → List Contact → Copy → Prop where
  | done {w} : Kept codes w [] w
  | looked {w a answer heard w'}
      (rest : Kept codes (w.hear codes (.looked a answer)) heard w') :
      Kept codes w (.looked a answer :: heard) w'
  | sent {w e answer heard w'} (sequence : e.sequence = w.counters.sequence)
      (rest : Kept codes (w.hear codes (.sent e answer)) heard w') :
      Kept codes w (.sent e answer :: heard) w'
  | rested {w x ms heard w'} (after : w.last = some x) (conflict : conflicts codes x = true)
      (rest : Kept codes (w.hear codes (.rested ms)) heard w') :
      Kept codes w (.rested ms :: heard) w'

theorem Kept.append {codes : List ConflictCode} {w w' w'' : Copy} {xs ys : List Contact}
    (hx : Kept codes w xs w') (hy : Kept codes w' ys w'') : Kept codes w (xs ++ ys) w'' := by
  induction hx with
  | done => exact hy
  | looked _ ih => exact .looked (ih hy)
  | sent hs _ ih => exact .sent hs (ih hy)
  | rested ha hc _ ih => exact .rested ha hc (ih hy)

theorem Kept.split {codes : List ConflictCode} {w w'' : Copy} {xs ys : List Contact}
    (h : Kept codes w (xs ++ ys) w'') : ∃ w', Kept codes w xs w' ∧ Kept codes w' ys w'' := by
  induction xs generalizing w with
  | nil => exact ⟨w, .done, h⟩
  | cons x xs ih =>
    cases h with
    | looked rest =>
      obtain ⟨w', hx, hy⟩ := ih rest
      exact ⟨w', .looked hx, hy⟩
    | sent hs rest =>
      obtain ⟨w', hx, hy⟩ := ih rest
      exact ⟨w', .sent hs hx, hy⟩
    | rested ha hc rest =>
      obtain ⟨w', hx, hy⟩ := ih rest
      exact ⟨w', .rested ha hc hx, hy⟩

theorem sealed_sequence {s : Session} {order : Order} {n : Counters} {e : Envelope}
    (h : sealed s order n = .ok e) : e.sequence = n.sequence :=
  Envelope.build_sequence h

/-- A round up to its answer is kept by every copy that agrees with the wallet. -/
theorem Try.kept {c : Client σ} {s : Session} {order : Order} {conflicted : Bool} {n m : Counters}
    {l l' : σ} {info : AccountInfo} {e : Envelope} {answer : Except Failure Receipt}
    {heard : List Contact} {w w' : Copy} (made : Try c s order conflicted n l info m e answer l')
    (hw : w.counters = n) (hstale : w.stale = conflicted)
    (rest : Kept s.conflictCodes
      (Copy.hear s.conflictCodes ⟨m, some (.looked s.wallet.account (.ok info))⟩ (.sent e answer))
      heard w') :
    Kept s.conflictCodes w (.looked s.wallet.account (.ok info) :: .sent e answer :: heard) w' := by
  have hm : w.hear s.conflictCodes (.looked s.wallet.account (.ok info)) =
      ⟨m, some (.looked s.wallet.account (.ok info))⟩ := by
    rw [made.counters, ← hw, ← hstale]
    rfl
  apply Kept.looked
  rw [hm]
  exact .sent (sealed_sequence made.signed) rest

/-- The journal of a submission accounts for the counters that it leaves. -/
theorem Course.kept {c : Client σ} {s : Session} {order : Order} {k : Nat} {n n' : Counters}
    {l l' : σ} {heard : List Contact} {result : Except Failure Submission}
    (h : Course c s order k n l heard result n' l') {w : Copy} (hw : w.counters = n)
    (hstale : w.stale = decide (0 < k)) :
    ∃ w', Kept s.conflictCodes w heard w' ∧ w'.counters = n' ∧ w'.stale = false := by
  induction h generalizing w with
  | unanswered _ => exact ⟨_, .looked .done, hw, rfl⟩
  | refused _ _ => exact ⟨_, .looked .done, by rw [← hw, ← hstale]; rfl, rfl⟩
  | unsent made => exact ⟨_, made.kept hw hstale .done, rfl, rfl⟩
  | rejected made failed =>
    refine ⟨_, made.kept hw hstale .done, ?_, rfl⟩
    simp [Copy.hear, Copy.learn, credits, failed]
  | succeeded made success =>
    refine ⟨_, made.kept hw hstale .done, ?_, rfl⟩
    simp [Copy.hear, Copy.learn, credits, success]
  | exhausted made conflict _ =>
    refine ⟨_, made.kept hw hstale .done, ?_, rfl⟩
    simp [Copy.hear, Copy.learn, credits, conflict]
  | @again k n l info m e r l' ms heard result n' l'' made conflict left rest ih =>
    have hcounters : (Copy.hear s.conflictCodes (Copy.hear s.conflictCodes
        ⟨m, some (.looked s.wallet.account (.ok info))⟩ (.sent e (.ok r))) (.rested ms)).counters =
          m := by simp [Copy.hear, Copy.learn, credits, conflict]
    obtain ⟨w', hkept, hn, hfresh⟩ := ih hcounters (by simp [Copy.hear, Copy.stale])
    have hconflict : conflicts s.conflictCodes (.sent e (.ok r)) = true := by
      simp [conflicts, conflict]
    exact ⟨w', made.kept hw hstale (.rested rfl hconflict hkept), hn, hfresh⟩

def submitAll (c : Client σ) (orders : List Order) (s : Scene σ) : Scene σ :=
  orders.foldl (fun t order => (submit c order t).2) s

/-- The journal of a run of submissions accounts for the counters, which are all that the run changes
of the session. -/
theorem submitAll_kept (c : Client σ) (orders : List Order) (s : Scene σ) (w : Copy)
    (hw : w.counters = s.session.wallet.counters) (hstale : w.stale = false) :
    ∃ heard w', Leads c s heard (submitAll c orders s) ∧ Kept s.session.conflictCodes w heard w' ∧
      (submitAll c orders s).session = withCounters s.session w'.counters := by
  induction orders generalizing s w with
  | nil => exact ⟨[], w, ⟨(List.append_nil _).symm, .done⟩, .done, by rw [hw]; rfl⟩
  | cons order orders ih =>
    obtain ⟨heard, n', hj, hs, hcourse⟩ := submit_course c order s
    obtain ⟨w₁, hkept, hn, hfresh⟩ := hcourse.kept hw (by simpa using hstale)
    obtain ⟨later, w', hleads, hkept', hs'⟩ := ih (submit c order s).2 w₁ (by rw [hs, hn]; rfl) hfresh
    have hdealt := hleads.dealt
    rw [hs] at hkept' hs' hdealt
    exact ⟨heard ++ later, w', ⟨by rw [← List.append_assoc, ← hj]; exact hleads.journal,
      hcourse.dealt.append hdealt⟩, hkept.append hkept', hs'⟩

end TxDispatch.Proofs
