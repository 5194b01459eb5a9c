import TxDispatch.Proofs.FreshSequences
import TxDispatch.Proofs.Rebroadcasts

namespace TxDispatch.Proofs

open Scene

variable {σ : Type}

/-- A session counts a sequence as consumed if the answer is no conflict, and succeeded or is in a
block. -/
theorem credits_eq_true {codes : List ConflictCode} {r : Receipt}
    (settled : r.verdict codes ≠ .conflict)
    (consumed : r.verdict codes = .succeeded ∨ r.isIncluded = true) : credits codes r = true := by
  unfold credits
  cases hv : r.verdict codes with
  | conflict => exact absurd hv settled
  | succeeded => rfl
  | failed code codespace rawLog => simpa [hv] using consumed

/-- A conflict is never counted as consumed. -/
theorem verdict_of_credits {codes : List ConflictCode} {r : Receipt} (h : credits codes r = true) :
    r.verdict codes ≠ .conflict := by
  intro hv
  simp [credits, hv] at h

theorem max_after (q : UInt64) : max q (Counters.after q) = Counters.after q := by
  apply UInt64.toNat_inj.mp
  have hle : q ≤ Counters.after q := by
    rw [UInt64.le_iff_toNat_le, Counters.after_toNat]
    have := q.toNat_lt_size
    omega
  simp [max, hle]

/-- A wallet that is at a sequence is directly behind it once it has advanced past it. -/
theorem advancePast_sequence {n : Counters} {q : UInt64} (h : n.sequence = q) :
    (n.advancePast q).sequence = Counters.after q := by
  simp [Counters.advancePast, h, max_after]

/-- A broadcast that a submission counts as consumed is its last, and the wallet ends directly behind
its sequence. -/
theorem Course.credited {c : Client σ} {s : Session} {order : Order} {k : Nat} {n n' : Counters}
    {l l' : σ} {heard before after : List Contact} {result : Except Failure Submission}
    {e : Envelope} {r : Receipt} (h : Course c s order k n l heard result n' l')
    (hs : heard = before ++ .sent e (.ok r) :: after) (credited : credits s.conflictCodes r = true) :
    n'.sequence = Counters.after e.sequence := by
  have hno := verdict_of_credits credited
  obtain ⟨_, m, made, signed, hsettle⟩ := h.settled hs hno
  have hcounters : n' = m.advancePast e.sequence := by
    rw [settle_shape] at hsettle
    cases hv : r.verdict s.conflictCodes with
    | conflict => exact absurd hv hno
    | succeeded =>
      simp only [hv] at hsettle
      exact (congrArg (fun t => t.1.wallet.counters) hsettle).symm
    | failed code codespace rawLog =>
      have included : r.isIncluded = true := by simpa [credits, hv] using credited
      simp only [hv, included, if_true] at hsettle
      exact (congrArg (fun t => t.1.wallet.counters) hsettle).symm
  rw [hcounters]
  exact advancePast_sequence (sealed_sequence signed).symm

/-- After a broadcast that succeeded, or that was rejected in a block, the wallet is directly behind its
sequence when the submission returns; only at the last sequence it stays where it is. -/
theorem submit_recorded (c : Client σ) (order : Order) (s : Scene σ) (before after : List Contact)
    (e : Envelope) (r : Receipt)
    (journal : (submit c order s).2.world.journal =
      s.world.journal ++ (before ++ .sent e (.ok r) :: after))
    (settled : r.verdict s.session.conflictCodes ≠ .conflict)
    (consumed : r.verdict s.session.conflictCodes = .succeeded ∨ r.isIncluded = true) :
    (submit c order s).2.session.wallet.sequence = Counters.after e.sequence ∧
      (e.sequence < Counters.lastSequence →
        e.sequence < (submit c order s).2.session.wallet.sequence) := by
  obtain ⟨heard, n', hj, hs, hcourse⟩ := submit_course c order s
  rw [journal] at hj
  have hend : (submit c order s).2.session.wallet.sequence = Counters.after e.sequence := by
    rw [hs]
    exact hcourse.credited (List.append_cancel_left hj).symm (credits_eq_true settled consumed)
  refine ⟨hend, ?_⟩
  intro below
  rw [hend]
  exact lt_after below

/-- A transaction that is rejected in a block after a lost round consumes a sequence. -/
theorem submit_recorded_rejected :
    let s := leastScene [.ok Scripted.mismatch, .ok { height := 5, code := 9 }]
    ∃ before e r, (submit Scripted.client leastOrder s).2.world.journal =
        s.world.journal ++ (before ++ .sent e (.ok r) :: []) ∧
      r.verdict [] ≠ .conflict ∧ (r.verdict [] = .succeeded ∨ r.isIncluded = true) ∧
      (submit Scripted.client leastOrder s).2.session.wallet.sequence = Counters.after e.sequence ∧
      (e.sequence < Counters.lastSequence →
        e.sequence < (submit Scripted.client leastOrder s).2.session.wallet.sequence) :=
  ⟨[_, _, _, _], _, { height := 5, code := 9 }, rfl, by decide, by decide,
    submit_recorded Scripted.client leastOrder _ [_, _, _, _] [] _ { height := 5, code := 9 } rfl
      (by decide) (by decide)⟩

/-- The wallet ends past the sequence of every broadcast that succeeded or is in a block. -/
def RecordsEach (c : Client σ) (order : Order) (s : Scene σ) : Prop :=
  ∀ before e r after, (submit c order s).2.world.journal =
      s.world.journal ++ (before ++ .sent e (.ok r) :: after) →
    r.verdict s.session.conflictCodes = .succeeded ∨ r.isIncluded = true →
    e.sequence < (submit c order s).2.session.wallet.sequence

def brimScene : Scene (Staged Scripted) :=
  ⟨leastSession, { ledger := {
    inner := { chainId := "localterra", script := [.ok (Scripted.success 1 [])] }
    views := [.ok ⟨1, Counters.lastSequence⟩] } }⟩

/-- A success at the last sequence leaves the wallet there, and so does a conflict that uses up the
budget, though a block may hold it. -/
theorem not_recordsEach :
    ¬ RecordsEach (Staged.client Scripted.client) leastOrder brimScene ∧
      ¬ RecordsEach Scripted.client leastOrder
        (tolerantScene (List.replicate 3 (.ok { height := 7, code := 32, codespace := "sdk" }))) := by
  constructor
  · intro h
    exact absurd (h [_] _ (Scripted.success 1 []) [] rfl (.inl rfl)) (by decide)
  · intro h
    exact absurd (h [_, _, _, _, _, _, _] _ { height := 7, code := 32, codespace := "sdk" } [] rfl
      (.inr rfl)) (by decide)

end TxDispatch.Proofs
