import TxDispatch.Text.Digits
import TxDispatch.Word64

namespace TxDispatch

open Text

structure Backoff where
  maxAttempts : UInt32
  baseDelay : UInt64
  maxDelay : UInt64
  pos : 0 < maxAttempts

namespace Backoff

instance : DecidableEq Backoff := fun a b =>
  if h : a.maxAttempts = b.maxAttempts ∧ a.baseDelay = b.baseDelay ∧ a.maxDelay = b.maxDelay then
    isTrue (by cases a; cases b; simp_all)
  else isFalse (by rintro rfl; simp at h)

/-- A budget of no broadcasts is raised to one. -/
def of (maxAttempts : UInt32) (baseDelay maxDelay : UInt64) : Backoff :=
  if h : 0 < maxAttempts then ⟨maxAttempts, baseDelay, maxDelay, h⟩
  else ⟨1, baseDelay, maxDelay, by decide⟩

def allowsAnother (b : Backoff) (made : UInt32) : Bool := made < b.maxAttempts

def greatest : UInt64 := 0xFFFFFFFFFFFFFFFF

/-- `2 ^ n` in 64 bits; past the last bit it is the greatest number. -/
def doubling (n : Nat) : UInt64 := if n < 64 then 1 <<< UInt64.ofNat n else greatest

def saturatingMul (a b : UInt64) : UInt64 := (Digits.toWord64? (a.toNat * b.toNat)).getD greatest

/-- The delay before jitter: the base doubled for every broadcast after the first, up to the
maximum. -/
def capped (b : Backoff) (made : UInt32) : UInt64 :=
  if made = 0 then 0 else min (saturatingMul b.baseDelay (doubling (made.toNat - 1))) b.maxDelay

/-- How many values the jitter may take, a tenth of the delay; with none there is no jitter. -/
def spread (b : Backoff) (made : UInt32) : UInt64 := b.capped made / 10

def jitter (b : Backoff) (made : UInt32) (draw : UInt64) : UInt64 :=
  if b.spread made = 0 then 0 else draw % b.spread made

def delay (b : Backoff) (made : UInt32) (draw : UInt64) : UInt64 :=
  b.capped made + b.jitter made draw

def maxJitter (b : Backoff) (made : UInt32) : UInt64 :=
  if b.spread made = 0 then 0 else b.spread made - 1

theorem of_maxAttempts (n : UInt32) (base max_ : UInt64) :
    (of n base max_).maxAttempts = if 0 < n then n else 1 := by
  unfold of
  split <;> simp_all

theorem greatest_toNat : greatest.toNat = UInt64.size - 1 := rfl

theorem saturatingMul_toNat (a b : UInt64) :
    (saturatingMul a b).toNat = min (a.toNat * b.toNat) (UInt64.size - 1) := by
  unfold saturatingMul Digits.toWord64?
  split
  · rename_i h
    rw [Option.getD_some, UInt64.toNat_ofNatLT]
    omega
  · rw [Option.getD_none, greatest_toNat]
    omega

theorem capped_le (b : Backoff) (made : UInt32) : b.capped made ≤ b.maxDelay := by
  by_cases h : made = 0
  · simp [capped, h]
  · rw [UInt64.le_iff_toNat_le, capped, if_neg h, Word64.toNat_min]
    exact Nat.min_le_right _ _

theorem spread_toNat (b : Backoff) (made : UInt32) :
    (b.spread made).toNat = (b.capped made).toNat / 10 := UInt64.toNat_div _ _

/-- The jitter stays below a tenth of the delay, and is none if that is no whole millisecond. -/
theorem jitter_toNat_lt (b : Backoff) (made : UInt32) (draw : UInt64) :
    (b.jitter made draw).toNat < max ((b.capped made).toNat / 10) 1 := by
  rw [← spread_toNat, jitter]
  split
  · rw [UInt64.toNat_zero]
    omega
  · rename_i h
    have hpos : 0 < (b.spread made).toNat :=
      UInt64.lt_iff_toNat_lt.mp (UInt64.pos_iff_ne_zero.mpr h)
    rw [UInt64.toNat_mod]
    exact Nat.lt_of_lt_of_le (Nat.mod_lt _ hpos) (Nat.le_max_left _ _)

/-- Every number below that tenth is drawn as it is. -/
theorem jitter_of_lt {b : Backoff} {made : UInt32} {draw : UInt64} (h : draw < b.spread made) :
    b.jitter made draw = draw := by
  have hpos : b.spread made ≠ 0 := by
    rintro hzero
    rw [hzero] at h
    exact UInt64.not_lt_zero h
  rw [jitter, if_neg hpos]
  exact UInt64.mod_eq_of_lt h

theorem delay_zero (b : Backoff) (draw : UInt64) : b.delay 0 draw = 0 := by
  simp [delay, jitter, spread, capped]

/-- The delay and the jitter of a drawn number together fit 64 bits. -/
def Fits (b : Backoff) (made : UInt32) (draw : UInt64) : Prop :=
  (b.capped made).toNat + (b.jitter made draw).toNat < UInt64.size

instance (b : Backoff) (made : UInt32) (draw : UInt64) : Decidable (b.Fits made draw) :=
  inferInstanceAs (Decidable (_ < _))

theorem delay_toNat {b : Backoff} {made : UInt32} {draw : UInt64} (h : b.Fits made draw) :
    (b.delay made draw).toNat = (b.capped made).toNat + (b.jitter made draw).toNat := by
  rw [delay, UInt64.toNat_add]
  exact Nat.mod_eq_of_lt h

/-- A sum that does not fit wraps round to less than the delay without jitter. -/
theorem fits_iff_le_delay (b : Backoff) (made : UInt32) (draw : UInt64) :
    b.Fits made draw ↔ b.capped made ≤ b.delay made draw := by
  rw [UInt64.le_iff_toNat_le]
  constructor
  · intro h
    rw [delay_toNat h]
    exact Nat.le_add_right _ _
  · intro h
    have hcapped := (b.capped made).toNat_lt
    have hjitter := (b.jitter made draw).toNat_lt
    rw [delay, UInt64.toNat_add] at h
    unfold Fits UInt64.size
    omega

end Backoff

def Backoff.shown (b : Backoff) : String :=
  "RetryPolicy \x7b max_attempts: " ++ Digits.text b.maxAttempts.toNat ++ ", base_delay_ms: " ++
    Digits.text b.baseDelay.toNat ++ ", max_delay_ms: " ++ Digits.text b.maxDelay.toNat ++ " \x7d"

end TxDispatch
