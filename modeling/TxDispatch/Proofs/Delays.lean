import Mathlib.Algebra.GroupWithZero.Nat
import TxDispatch.Config.Check
import TxDispatch.Proofs.Outcomes

namespace TxDispatch

namespace Backoff

theorem doubling_toNat (n : Nat) : (doubling n).toNat = min (2 ^ n) (UInt64.size - 1) := by
  unfold doubling
  split
  · rename_i hn
    have hpow : 2 ^ n ≤ 2 ^ 63 := Nat.pow_le_pow_right (by decide) (by omega)
    have hword : (UInt64.ofNat n).toNat = n :=
      UInt64.toNat_ofNat_of_lt (by rw [UInt64.size]; omega)
    rw [UInt64.toNat_shiftLeft, hword, Nat.mod_eq_of_lt hn, UInt64.toNat_one, Nat.one_shiftLeft,
      Nat.mod_eq_of_lt (by omega), UInt64.size]
    omega
  · rename_i hn
    have hpow : 2 ^ 64 ≤ 2 ^ n := Nat.pow_le_pow_right (by decide) (by omega)
    rw [greatest_toNat, UInt64.size]
    omega

/-- Below a limit of its own a product is not seen to have saturated, nor is its second factor. -/
theorem min_saturated {limit most : Nat} (h : limit ≤ most) (a b : Nat) :
    min (min (a * min b most) most) limit = min (a * b) limit := by
  by_cases hfits : b ≤ most
  · rw [Nat.min_eq_left hfits]
    omega
  · rw [Nat.min_eq_right (Nat.le_of_not_le hfits)]
    rcases Nat.eq_zero_or_pos a with rfl | hpos
    · simp
    · have hmost := Nat.le_mul_of_pos_left most hpos
      have hexact := Nat.le_mul_of_pos_left b hpos
      omega

/-- The delay before jitter in whole numbers. -/
theorem capped_toNat (b : Backoff) {made : UInt32} (h : 0 < made) :
    (b.capped made).toNat =
      min (b.baseDelay.toNat * 2 ^ (made.toNat - 1)) b.maxDelay.toNat := by
  have hmax : b.maxDelay.toNat ≤ UInt64.size - 1 := Nat.le_sub_one_of_lt b.maxDelay.toNat_lt_size
  rw [capped, if_neg (UInt32.pos_iff_ne_zero.mp h), Word64.toNat_min, saturatingMul_toNat,
    doubling_toNat, min_saturated hmax]

theorem fits_of_small {b : Backoff} (h : b.maxDelay.toNat < 2 ^ 63) (made : UInt32)
    (draw : UInt64) : b.Fits made draw := by
  have hjitter := b.jitter_toNat_lt made draw
  have hcapped := UInt64.le_iff_toNat_le.mp (b.capped_le made)
  unfold Fits UInt64.size
  omega

end Backoff

namespace Proofs

open Scene

variable {σ : Type}

structure Scheduled (b : Backoff) : Prop where
  capped : ∀ made, 0 < made →
    (b.capped made).toNat = min (b.baseDelay.toNat * 2 ^ (made.toNat - 1)) b.maxDelay.toNat
  rising : ∀ made later, made ≤ later → b.capped made ≤ b.capped later
  bounded : ∀ made, b.capped made ≤ b.maxDelay
  none_iff : ∀ made, 0 < made → (b.capped made = 0 ↔ b.baseDelay = 0 ∨ b.maxDelay = 0)
  first : ∀ draw, b.delay 0 draw = 0
  drawn : b.maxDelay.toNat < 2 ^ 63 → ∀ made draw,
    (b.capped made).toNat ≤ (b.delay made draw).toNat ∧
      (b.delay made draw).toNat ≤ (b.capped made).toNat + max ((b.capped made).toNat / 10) 1 - 1

theorem capped_rising (b : Backoff) {made later : UInt32} (h : made ≤ later) :
    b.capped made ≤ b.capped later := by
  by_cases hzero : made = 0
  · simp [Backoff.capped, hzero]
  · have hmade : 0 < made := UInt32.pos_iff_ne_zero.mpr hzero
    have hlater : 0 < later := UInt32.lt_of_lt_of_le hmade h
    have hpow : 2 ^ (made.toNat - 1) ≤ 2 ^ (later.toNat - 1) :=
      Nat.pow_le_pow_right (by decide) (Nat.sub_le_sub_right (UInt32.le_iff_toNat_le.mp h) 1)
    have hscaled := Nat.mul_le_mul_left b.baseDelay.toNat hpow
    rw [UInt64.le_iff_toNat_le, b.capped_toNat hmade, b.capped_toNat hlater]
    omega

theorem capped_eq_zero_iff (b : Backoff) {made : UInt32} (h : 0 < made) :
    b.capped made = 0 ↔ b.baseDelay = 0 ∨ b.maxDelay = 0 := by
  have hpow : 0 < 2 ^ (made.toNat - 1) := Nat.two_pow_pos _
  simp only [← UInt64.toNat_inj, b.capped_toNat h, UInt64.toNat_zero, Nat.min_eq_zero_iff,
    Nat.mul_eq_zero, Nat.ne_of_gt hpow, or_false]

theorem delay_drawn {b : Backoff} {made : UInt32} {draw : UInt64} (fits : b.Fits made draw) :
    (b.capped made).toNat ≤ (b.delay made draw).toNat ∧
      (b.delay made draw).toNat ≤ (b.capped made).toNat + max ((b.capped made).toNat / 10) 1 - 1 := by
  have hjitter := b.jitter_toNat_lt made draw
  rw [Backoff.delay_toNat fits]
  omega

theorem scheduled (b : Backoff) : Scheduled b where
  capped _ h := b.capped_toNat h
  rising _ _ h := capped_rising b h
  bounded := b.capped_le
  none_iff _ h := capped_eq_zero_iff b h
  first := b.delay_zero
  drawn small made draw := delay_drawn (Backoff.fits_of_small small made draw)

def rests (heard : List Contact) : List Nat :=
  heard.filterMap fun x => match x with
    | .rested ms => some ms.toNat
    | _ => none

@[simp] theorem rests_nil : rests [] = [] := rfl

@[simp] theorem rests_looked (a : String) (answer : Except Failure AccountInfo)
    (heard : List Contact) : rests (.looked a answer :: heard) = rests heard := rfl

@[simp] theorem rests_sent (e : Envelope) (answer : Except Failure Receipt)
    (heard : List Contact) : rests (.sent e answer :: heard) = rests heard := rfl

@[simp] theorem rests_rested (ms : UInt64) (heard : List Contact) :
    rests (.rested ms :: heard) = ms.toNat :: rests heard := rfl

def attempts (heard : List Contact) : Nat :=
  heard.countP fun x => match x with
    | .looked _ _ => true
    | _ => false

/-- There is a rest between every two attempts, and nowhere else. -/
theorem Course.attempts_eq {c : Client σ} {s : Session} {order : Order} {k : Nat}
    {n n' : Counters} {l l' : σ} {heard : List Contact} {result : Except Failure Submission}
    (h : Course c s order k n l heard result n' l') :
    attempts heard = (rests heard).length + 1 := by
  induction h with
  | unanswered _ | refused _ _ | unsent _ | rejected _ _ | succeeded _ _ | exhausted _ _ _ =>
    simp [attempts]
  | again _ _ _ _ ih =>
    unfold attempts at ih ⊢
    simp [ih]

theorem Course.attempts_le {c : Client σ} {s : Session} {order : Order} {k : Nat}
    {n n' : Counters} {l l' : σ} {heard : List Contact} {result : Except Failure Submission}
    (h : Course c s order k n l heard result n' l') (hk : k < s.backoff.maxAttempts.toNat) :
    k + attempts heard ≤ s.backoff.maxAttempts.toNat := by
  rw [h.attempts_eq]
  induction h with
  | unanswered _ | refused _ _ | unsent _ | rejected _ _ | succeeded _ _ | exhausted _ _ _ =>
    exact hk
  | again _ _ left _ ih =>
    have hrest := ih left
    simp only [rests_looked, rests_sent, rests_rested, List.length_cons]
    omega

/-- No rest is longer than the maximum and a tenth of it. -/
theorem Paced.sum_le {b : Backoff} {made : Nat} {heard : List Contact} (h : Paced b made heard)
    (small : b.maxDelay.toNat < 2 ^ 63) :
    (rests heard).sum ≤
      (rests heard).length * (b.maxDelay.toNat + b.maxDelay.toNat / 10) := by
  induction h with
  | done => simp
  | looked _ ih => exact ih
  | sent _ ih => exact ih
  | @rested made heard draw _ ih =>
    have hdrawn := (delay_drawn (Backoff.fits_of_small small (.ofNat made) draw)).2
    have hcapped := UInt64.le_iff_toNat_le.mp (b.capped_le (.ofNat made))
    rw [rests_rested, List.sum_cons, List.length_cons, Nat.succ_mul]
    omega

structure Rested (b : Backoff) (heard : List Contact) : Prop where
  paced : Paced b 0 heard
  between : attempts heard = (rests heard).length + 1
  within : attempts heard ≤ b.maxAttempts.toNat
  total : (rests heard).sum ≤
    (attempts heard - 1) * (b.maxDelay.toNat + b.maxDelay.toNat / 10)
  most : (rests heard).sum ≤
    (b.maxAttempts.toNat - 1) * (b.maxDelay.toNat + b.maxDelay.toNat / 10)

theorem submit_rested (c : Client σ) (order : Order) (s : Scene σ)
    (small : s.session.backoff.maxDelay.toNat < 2 ^ 63) :
    ∃ heard, Leads c s heard (submit c order s).2 ∧ Rested s.session.backoff heard := by
  obtain ⟨heard, result, n', w', hs, hj, _, hpaced, hcourse⟩ := submit_rounds c order s
  have hbetween := hcourse.attempts_eq
  have hwithin := hcourse.attempts_le s.session.backoff.pos
  have hsum := hpaced.sum_le small
  have htotal : (rests heard).length = attempts heard - 1 := by omega
  rw [htotal] at hsum
  rw [hs]
  refine ⟨heard, ⟨hj, hcourse.dealt⟩, hpaced, hbetween, by simpa using hwithin, hsum, ?_⟩
  exact Nat.le_trans hsum (Nat.mul_le_mul_right _ (by omega))

/-- Every policy keeps its schedule, and every submission under it rests by that schedule. -/
theorem backoff_scheduled (b : Backoff) :
    Scheduled b ∧ ∀ (c : Client σ) (order : Order) (s : Scene σ), s.session.backoff = b →
      b.maxDelay.toNat < 2 ^ 63 →
        ∃ heard, Leads c s heard (submit c order s).2 ∧ Rested b heard := by
  refine ⟨scheduled b, ?_⟩
  rintro c order s rfl small
  exact submit_rested c order s small

theorem backoff_scheduled_capped :
    let b : Backoff := .of 3 250 400
    let s : Scene Scripted := ⟨{ leastSession with backoff := b }, {
      ledger := {
        chainId := "localterra"
        script := [.ok Scripted.mismatch, .ok Scripted.mismatch, .ok (Scripted.success 1 [])] }
      draws := [7, 39] }⟩
    b.maxDelay.toNat < 2 ^ 63 ∧
    rests (submit Scripted.client leastOrder s).2.world.journal = [257, 439] ∧
    Scheduled b ∧ ∃ heard, Leads Scripted.client s heard (submit Scripted.client leastOrder s).2 ∧
      Rested b heard := by
  intro b s
  have small : b.maxDelay.toNat < 2 ^ 63 := by decide
  obtain ⟨hscheduled, hrested⟩ := backoff_scheduled (σ := Scripted) b
  exact ⟨small, by decide +kernel, hscheduled, hrested Scripted.client leastOrder s rfl small⟩

/-- Once the base is doubled 64 times, any base but zero has reached the maximum. -/
theorem capped_full {b : Backoff} (h : b.baseDelay ≠ 0) : b.capped 65 = b.maxDelay := by
  have hbase : 0 < b.baseDelay.toNat :=
    UInt64.lt_iff_toNat_lt.mp (UInt64.pos_iff_ne_zero.mpr h)
  have hscaled : 2 ^ 64 ≤ b.baseDelay.toNat * 2 ^ 64 := Nat.le_mul_of_pos_left _ hbase
  have hmax := b.maxDelay.toNat_lt
  rw [← UInt64.toNat_inj, b.capped_toNat (by decide)]
  exact Nat.min_eq_right (Nat.le_trans (Nat.le_of_lt hmax) hscaled)

/-- The jitter may be any number below a tenth of the delay, so a delay fits whatever is drawn if with
its tenth it comes to the end of the 64 bits at most. -/
theorem forall_fits_iff (b : Backoff) (made : UInt32) :
    (∀ draw, b.Fits made draw) ↔
      (b.capped made).toNat + (b.capped made).toNat / 10 ≤ UInt64.size := by
  have hcapped := (b.capped made).toNat_lt_size
  have hspread := b.spread_toNat made
  constructor
  · intro fits
    rcases Nat.eq_zero_or_pos (b.spread made).toNat with hzero | hpos
    · omega
    · have hdraw : (b.spread made - 1).toNat = (b.spread made).toNat - 1 :=
        UInt64.toNat_sub_of_le _ _ (UInt64.le_iff_toNat_le.mpr hpos)
      have hjitter : b.jitter made (b.spread made - 1) = b.spread made - 1 :=
        Backoff.jitter_of_lt (UInt64.lt_iff_toNat_lt.mpr (by omega))
      have hfits := fits (b.spread made - 1)
      unfold Backoff.Fits at hfits
      rw [hjitter, hdraw] at hfits
      omega
  · intro h draw
    have hjitter := b.jitter_toNat_lt made draw
    unfold Backoff.Fits
    omega

/-- All delays of a policy fit if the maximum with a tenth of it does, or if none is ever waited; and
one that does not fit comes out shorter than it would be without jitter. -/
theorem delays_fit_iff (b : Backoff) :
    ((∀ made draw, b.Fits made draw) ↔
      b.baseDelay = 0 ∨ b.maxDelay.toNat + b.maxDelay.toNat / 10 ≤ UInt64.size) ∧
    ∀ made draw, b.Fits made draw ↔ b.capped made ≤ b.delay made draw := by
  refine ⟨⟨?_, ?_⟩, b.fits_iff_le_delay⟩
  · intro fits
    by_cases hbase : b.baseDelay = 0
    · exact .inl hbase
    · have hfull := (forall_fits_iff b 65).mp (fits 65)
      rw [capped_full hbase] at hfull
      exact .inr hfull
  · intro h made
    apply (forall_fits_iff b made).mpr
    rcases h with hbase | hmax
    · have hnone : b.capped made = 0 := by
        by_cases hmade : made = 0
        · simp [Backoff.capped, hmade]
        · exact (capped_eq_zero_iff b (UInt32.pos_iff_ne_zero.mpr hmade)).mpr (.inl hbase)
      simp [hnone]
    · have hle := UInt64.le_iff_toNat_le.mp (b.capped_le made)
      omega

/-- The greatest delays are in order, and then the least jitter leaves no delay at all. -/
theorem not_fits_greatest :
    let c : Config := { retries := { baseDelay := Backoff.greatest, maxDelay := Backoff.greatest } }
    c.isValid = true ∧ ¬ c.retries.backoff.Fits 1 1 ∧ c.retries.backoff.delay 1 1 = 0 := by
  refine ⟨by decide +kernel, ?_, by decide +kernel⟩
  rw [Backoff.fits_iff_le_delay]
  decide +kernel

end Proofs

end TxDispatch
