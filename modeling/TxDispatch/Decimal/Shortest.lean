import TxDispatch.Decimal.Double
import TxDispatch.Text.Digits

namespace TxDispatch

/-- A decimal `digits * 10 ^ exponent`. -/
structure Decimal where
  digits : Nat
  exponent : Int
deriving DecidableEq, Repr

namespace Decimal

/-- The reals that round to a double, over a common denominator: the double itself and the two
ends of the interval. -/
structure Interval where
  low : Nat
  middle : Nat
  high : Nat
  denominator : Nat
  closed : Bool

/-- The interval of a double. Below a power of two the lower half gap is half as wide. -/
def Interval.of (x : Double) : Interval :=
  let m := x.significand
  let narrow := m == 1 <<< (Double.precision - 1) && Double.leastExponent < x.exponent
  let low := if narrow then 4 * m - 1 else 4 * m - 2
  let e := x.exponent - 2
  if 0 ≤ e then
    let scale := 1 <<< e.toNat
    ⟨low * scale, 4 * m * scale, (4 * m + 2) * scale, 1, m % 2 == 0⟩
  else
    ⟨low, 4 * m, 4 * m + 2, 1 <<< (-e).toNat, m % 2 == 0⟩

def Interval.contains (i : Interval) (num den : Nat) : Bool :=
  let here := num * i.denominator
  if i.closed then i.low * den ≤ here && here ≤ i.high * den
  else i.low * den < here && here < i.high * den

def tenTo (e : Int) : Nat × Nat :=
  if 0 ≤ e then (Nat.pow 10 e.toNat, 1) else (1, Nat.pow 10 (-e).toNat)

/-- The exponent of the leading digit of `num / den`, which is positive: `10 ^ e ≤ num / den` and
`num / den < 10 ^ (e + 1)`. -/
def leading (num den : Nat) : Int :=
  -- A bit is 0.30103 decimal digits; what this leaves open is settled by comparing.
  let guess := ((num.log2 : Int) - den.log2 - 1) * 30103 / 100000
  let fits (e : Int) : Bool := let (a, b) := tenTo e; a * den ≤ num * b
  if fits (guess + 2) then guess + 2 else if fits (guess + 1) then guess + 1
  else if fits guess then guess else guess - 1

/-- The neighbour on the grid of multiples of `10 ^ e` that is in the interval, the nearer if both
are, the even one if they are equally near. -/
def onGrid? (i : Interval) (e : Int) : Option Decimal :=
  let (a, b) := tenTo e
  -- The double in units of the grid is `num / den`.
  let num := i.middle * b
  let den := i.denominator * a
  let below := num / den
  let inside (n : Nat) : Bool := i.contains (n * a) b
  let rest := num - below * den
  let nearer := if 2 * rest < den then below
    else if den < 2 * rest then below + 1
    else if below % 2 == 0 then below else below + 1
  if inside below && inside (below + 1) then some ⟨nearer, e⟩
  else if inside below then some ⟨below, e⟩
  else if inside (below + 1) then some ⟨below + 1, e⟩
  else none

def firstGrid (i : Interval) (e : Int) : Nat → Decimal
  | 0 => ⟨i.middle / i.denominator, 0⟩
  | more + 1 => (onGrid? i e).getD (firstGrid i (e - 1) more)

/-- The shortest decimal that reads back as a positive double: seventeen digits always do. -/
def shortest (x : Double) : Decimal :=
  let i := Interval.of x
  firstGrid i (leading i.middle i.denominator) 18

def trimmed : (limit : Nat) → Decimal → Decimal
  | 0, d => d
  | limit + 1, d =>
    if d.digits ≠ 0 ∧ d.digits % 10 = 0 then trimmed limit ⟨d.digits / 10, d.exponent + 1⟩ else d

def normal (d : Decimal) : Decimal := trimmed 32 d

/-- A zero comes without a power of ten. -/
def Grounded (d : Decimal) : Prop := d.digits = 0 → d.exponent = 0

theorem grounded_trimmed {d : Decimal} (h : d.Grounded) (limit : Nat) :
    (trimmed limit d).Grounded := by
  induction limit generalizing d with
  | zero => exact h
  | succ limit ih =>
    rw [trimmed]
    split
    · apply ih
      intro hzero
      simp only at hzero
      omega
    · exact h

theorem Interval.contains_pos {i : Interval} {n den : Nat} (low : 0 < i.low) (hden : 0 < den)
    (h : i.contains n den = true) : 0 < n := by
  have hlow : 0 < i.low * den := Nat.mul_pos low hden
  apply Nat.pos_of_ne_zero
  rintro rfl
  unfold Interval.contains at h
  split at h
  case isTrue =>
    simp at h
    omega
  case isFalse => simp at h

theorem tenTo_pos (e : Int) : 0 < (tenTo e).2 := by
  unfold tenTo
  split
  · exact Nat.one_pos
  · exact Nat.pow_pos (by decide)

theorem onGrid?_pos {i : Interval} {e : Int} {d : Decimal} (low : 0 < i.low)
    (h : onGrid? i e = some d) : 0 < d.digits := by
  have hinside : i.contains (d.digits * (tenTo e).1) (tenTo e).2 = true := by
    simp only [onGrid?] at h
    split at h
    case isTrue hboth =>
      rw [Bool.and_eq_true] at hboth
      cases h
      dsimp only
      repeat' split
      all_goals first | exact hboth.1 | exact hboth.2
    case isFalse =>
      split at h
      case isTrue hbelow =>
        cases h
        exact hbelow
      case isFalse =>
        split at h
        case isTrue habove =>
          cases h
          exact habove
        case isFalse => cases h
  exact Nat.pos_of_mul_pos_right (Interval.contains_pos low (tenTo_pos e) hinside)

theorem grounded_firstGrid {i : Interval} (low : 0 < i.low) (e : Int) (steps : Nat) :
    (firstGrid i e steps).Grounded := by
  induction steps generalizing e with
  | zero => exact fun _ => rfl
  | succ steps ih =>
    rw [firstGrid]
    cases hgrid : onGrid? i e with
    | none => exact ih (e - 1)
    | some d =>
      have hpos := onGrid?_pos low hgrid
      intro hzero
      rw [Option.getD_some] at hzero
      omega

theorem Interval.low_of_pos {x : Double} (h : x.significand ≠ 0) : 0 < (Interval.of x).low := by
  have hnarrow : 0 < 4 * x.significand - 1 := by omega
  have hwide : 0 < 4 * x.significand - 2 := by omega
  have hlow : ∀ narrow : Bool,
      0 < if narrow then 4 * x.significand - 1 else 4 * x.significand - 2 := by
    intro narrow
    cases narrow
    · exact hwide
    · exact hnarrow
  unfold Interval.of
  simp only
  split
  · refine Nat.mul_pos (hlow _) ?_
    rw [Nat.one_shiftLeft]
    exact Nat.two_pow_pos _
  · exact hlow _

theorem grounded_shortest {x : Double} (h : x.significand ≠ 0) :
    (shortest x).normal.Grounded :=
  grounded_trimmed (grounded_firstGrid (Interval.low_of_pos h) _ _) _

end Decimal

end TxDispatch
