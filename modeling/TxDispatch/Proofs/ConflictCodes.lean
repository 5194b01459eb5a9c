import Mathlib.Data.Set.Defs
import TxDispatch.Proofs.Course

namespace TxDispatch

/-- The codes of a list that an error can have. -/
def ConflictCode.effective (codes : List ConflictCode) : Set ConflictCode :=
  {c | c ∈ codes ∧ c.code ≠ 0}

namespace Receipt

def conflictCode (r : Receipt) : ConflictCode := ⟨r.codespace, r.code⟩

/-- The answer was refused for an error that is no conflict. -/
def Fails (codes : List ConflictCode) (r : Receipt) : Prop :=
  ∃ code codespace rawLog, r.verdict codes = .failed code codespace rawLog

variable {r : Receipt} {codes more : List ConflictCode}

theorem hasConflictCode_iff :
    r.hasConflictCode codes = true ↔ r.conflictCode ∈ ConflictCode.effective codes := by
  have hpair : ∀ c : ConflictCode,
      (c.code == r.code && c.codespace == r.codespace) = true ↔ c = r.conflictCode := by
    rintro ⟨codespace, code⟩
    simp [conflictCode, and_comm]
  have herror : r.isError = true ↔ r.conflictCode.code ≠ 0 := by simp [isError, conflictCode]
  rw [hasConflictCode, Bool.and_eq_true, List.any_eq_true, herror]
  simp only [hpair, exists_eq_right]
  exact and_comm

/-- An answer is a conflict for its raw log, whatever its code is, or for its code. -/
theorem verdict_conflict_iff : r.verdict codes = .conflict ↔
    r.rawLog = mismatchLog ∨ r.conflictCode ∈ ConflictCode.effective codes := by
  rw [← hasConflictCode_iff, verdict]
  split
  · rename_i h
    exact iff_of_true rfl h
  · rename_i h
    refine iff_of_false ?_ h
    split <;> simp

/-- An answer fails if it is an error and no conflict. -/
theorem fails_iff : r.Fails codes ↔
    r.rawLog ≠ mismatchLog ∧ r.code ≠ 0 ∧ r.conflictCode ∉ ConflictCode.effective codes := by
  rw [Fails, verdict_eq_failed_iff, ← hasConflictCode_iff, Bool.not_eq_true, isError, bne_iff_ne]

theorem verdict_of_fails (h : r.Fails codes) :
    r.verdict codes = .failed r.code r.codespace r.rawLog := by
  obtain ⟨code, codespace, rawLog, hverdict⟩ := h
  obtain ⟨rfl, rfl, rfl⟩ := Proofs.verdict_failed hverdict
  exact hverdict

theorem verdict_of_clean (mismatch : r.rawLog ≠ mismatchLog) (clean : r.code = 0) :
    r.verdict codes = .succeeded :=
  verdict_eq_succeeded_iff.mpr ⟨mismatch, by simp [isError, clean]⟩

/-- Of the codes for conflicts it only matters whether the answer has one that is an error's. -/
theorem verdict_congr (same : r.conflictCode ∈ ConflictCode.effective codes ↔
    r.conflictCode ∈ ConflictCode.effective more) : r.verdict codes = r.verdict more := by
  by_cases hconflict : r.verdict codes = .conflict
  · have hmore : r.verdict more = .conflict := by
      rwa [verdict_conflict_iff, ← same, ← verdict_conflict_iff]
    rw [hconflict, hmore]
  · rw [verdict_conflict_iff, not_or] at hconflict
    obtain ⟨hlog, hcode⟩ := hconflict
    by_cases clean : r.code = 0
    · rw [verdict_of_clean hlog clean, verdict_of_clean hlog clean]
    · have hfails : r.Fails codes := fails_iff.mpr ⟨hlog, clean, hcode⟩
      have hmore : r.Fails more := fails_iff.mpr ⟨hlog, clean, mt same.mpr hcode⟩
      rw [verdict_of_fails hfails, verdict_of_fails hmore]

/-- With more codes for conflicts, a failure under one of them is a conflict. -/
theorem Fails.conflict (h : r.Fails codes) (named : r.conflictCode ∈ more) :
    r.verdict more = .conflict :=
  verdict_conflict_iff.mpr (.inr ⟨named, (fails_iff.mp h).2.1⟩)

/-- With more codes for conflicts, everything else keeps its meaning. -/
theorem verdict_of_subset (wider : codes ⊆ more)
    (kept : ¬ (r.Fails codes ∧ r.conflictCode ∈ more)) : r.verdict more = r.verdict codes := by
  by_cases hmore : r.conflictCode ∈ ConflictCode.effective more
  · by_cases hlog : r.rawLog = mismatchLog
    · rw [verdict_of_mismatch hlog, verdict_of_mismatch hlog]
    · have hcode : r.conflictCode ∈ ConflictCode.effective codes := by
        refine Classical.byContradiction fun hcode => kept ⟨?_, hmore.1⟩
        exact fails_iff.mpr ⟨hlog, hmore.2, hcode⟩
      exact verdict_congr (iff_of_true hmore hcode)
  · exact verdict_congr (iff_of_false hmore fun h => hmore ⟨wider h.1, h.2⟩)

end Receipt

namespace Proofs

structure Widens (r : Receipt) : Prop where
  effective : ∀ codes codes', ConflictCode.effective codes = ConflictCode.effective codes' →
    r.verdict codes = r.verdict codes'
  turned : ∀ codes more, codes ⊆ more → r.Fails codes → r.conflictCode ∈ more →
    r.verdict more = .conflict
  kept : ∀ codes more, codes ⊆ more → ¬ (r.Fails codes ∧ r.conflictCode ∈ more) →
    r.verdict more = r.verdict codes
  conflict_iff : ∀ codes, r.verdict codes = .conflict ↔
    r.rawLog = mismatchLog ∨ r.conflictCode ∈ ConflictCode.effective codes
  clean : r.code = 0 → r.rawLog ≠ mismatchLog → ∀ codes, r.verdict codes = .succeeded
  verbatim : ∀ codes code codespace rawLog, r.verdict codes = .failed code codespace rawLog →
    code = r.code ∧ codespace = r.codespace ∧ rawLog = r.rawLog

/-- More codes for conflicts make conflicts of failures under these codes, and of nothing else. The
raw log of a mismatch is a conflict under any codes, a success stays one, and a failure is told as it
is. -/
theorem verdict_widens (r : Receipt) : Widens r where
  effective _ _ same := Receipt.verdict_congr (by rw [same])
  turned _ _ _ fails named := fails.conflict named
  kept _ _ wider kept := Receipt.verdict_of_subset wider kept
  conflict_iff _ := Receipt.verdict_conflict_iff
  clean clean mismatch _ := Receipt.verdict_of_clean mismatch clean
  verbatim _ _ _ _ h := verdict_failed h

/-- Of a list that names the code of a failure second, after a pair that no error has, and of the
failure under it. -/
theorem verdict_widens_listed :
    let r : Receipt := { code := 32, codespace := "sdk", rawLog := "account sequence mismatch" }
    let codes : List ConflictCode := [⟨"sdk", 0⟩, ⟨"wasm", 32⟩]
    let more : List ConflictCode := [⟨"wasm", 32⟩, ⟨"sdk", 0⟩, ⟨"sdk", 32⟩]
    codes ⊆ more ∧ r.Fails codes ∧ r.conflictCode ∈ more ∧ r.verdict more = .conflict ∧
      Receipt.verdict more { r with codespace := "bank" } =
        Receipt.verdict codes { r with codespace := "bank" } ∧
      ∀ codes', Receipt.verdict codes' { r with code := 0 } = .succeeded := by
  intro r codes more
  have hwider : codes ⊆ more := by decide
  have hfails : r.Fails codes := ⟨32, "sdk", "account sequence mismatch", by decide⟩
  have hnamed : r.conflictCode ∈ more := by decide
  refine ⟨hwider, hfails, hnamed, (verdict_widens r).turned codes more hwider hfails hnamed, ?_, ?_⟩
  · exact (verdict_widens _).kept codes more hwider fun h => absurd h.2 (by decide)
  · exact (verdict_widens _).clean rfl (by decide)

end Proofs

end TxDispatch
