namespace TxDispatch

/-- A finite double in its one canonical form. -/
structure Double where
  negative : Bool
  significand : Nat
  exponent : Int
deriving DecidableEq, Repr

namespace Double

def precision : Nat := 53

/-- The least exponent; below it significands lose bits instead. -/
def leastExponent : Int := -1074

def greatestExponent : Int := 971

def zero (negative : Bool) : Double := ⟨negative, 0, leastExponent⟩

/-- The quotient rounded to the nearest whole number, a tie to the even one. -/
def roundDiv (num den : Nat) : Nat :=
  let q := num / den
  let twice := 2 * (num % den)
  if twice < den then q
  else if den < twice then q + 1
  else if q % 2 == 0 then q
  else q + 1

def scale (num den : Nat) : Int :=
  max ((num.log2 : Int) - den.log2 - 52) leastExponent

def roundAt (num den : Nat) (e : Int) : Nat :=
  if 0 ≤ e then roundDiv num (den <<< e.toNat) else roundDiv (num <<< (-e).toNat) den

/-- The double nearest to `num / den`, or none if that is beyond the greatest. -/
def ofRatio? (negative : Bool) (num den : Nat) : Option Double :=
  let guess := scale num den
  -- The estimate may be one too high for the quotient: then one more bit is to be had below.
  let low := max (guess - 1) leastExponent
  let e := if roundAt num den low < 1 <<< precision then low else guess
  let m := roundAt num den e
  -- Rounding up may reach the next power of two, which has the next exponent.
  let (m, e) := if m == 1 <<< precision then (1 <<< (precision - 1), e + 1) else (m, e)
  if m == 0 then some (zero negative)
  else if greatestExponent < e then none
  else some ⟨negative, m, e⟩

def ratio (x : Double) : Nat × Nat :=
  if 0 ≤ x.exponent then (x.significand <<< x.exponent.toNat, 1)
  else (x.significand, 1 <<< (-x.exponent).toNat)

def ofNat? (n : Nat) : Option Double := ofRatio? false n 1

def mul? (x y : Double) : Option Double :=
  let (a, b) := x.ratio
  let (c, d) := y.ratio
  ofRatio? false (a * c) (b * d)

def div? (x y : Double) : Option Double :=
  let (a, b) := x.ratio
  let (c, d) := y.ratio
  ofRatio? false (a * d) (b * c)

def powerOfTen? (n : Nat) : Option Double := ofRatio? false (Nat.pow 10 n) 1

end Double

end TxDispatch
