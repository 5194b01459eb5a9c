import TxDispatch.Json.Value
import TxDispatch.Text.Digits

namespace TxDispatch.Json

open Text

/-- A number as written: sign, digits before and after the point, and the digits of the power of
ten with its sign. No digits after the point means no point. -/
structure Literal where
  negative : Bool
  whole : List Char
  fraction : List Char
  power : Option (Bool × List Char)
deriving DecidableEq, Repr

namespace Literal

def isWhole (n : Literal) : Bool := n.fraction.isEmpty && n.power.isNone

def unsigned? (n : Literal) : Option Nat :=
  if n.isWhole && !n.negative then some (Digits.value n.whole) else none

theorem unsigned?_eq_some_iff {n : Literal} {v : Nat} :
    n.unsigned? = some v ↔ n = ⟨false, n.whole, [], none⟩ ∧ Digits.value n.whole = v := by
  obtain ⟨negative, whole, fraction, power⟩ := n
  cases negative <;> cases fraction <;> cases power <;> simp [Literal.unsigned?, Literal.isWhole]

/-- A significand of at most 64 bits with a power of ten. -/
structure Scaled where
  significand : Nat
  power : Int

/-- Takes digits as long as the significand fits 64 bits; each further one only counts. -/
def takeWhole : List Char → Scaled → Scaled × Bool
  | [], s => (s, true)
  | c :: cs, s =>
    let next := 10 * s.significand + Digits.worth c
    if next < UInt64.size then takeWhole cs ⟨next, s.power⟩
    else (⟨s.significand, s.power + (cs.length + 1 : Nat)⟩, false)

/-- Takes digits after the point as long as the significand fits 64 bits, and ignores the rest. -/
def takeFraction : List Char → Scaled → Scaled
  | [], s => s
  | c :: cs, s =>
    let next := 10 * s.significand + Digits.worth c
    if next < UInt64.size then takeFraction cs ⟨next, s.power - 1⟩ else s

/-- The bound within which the written power of ten is kept exactly. -/
def powerBound : Nat := 1 <<< 31

def shrink (x : Double) : Nat → Nat → Option Double
  | 0, _ => none
  | steps + 1, n =>
    if n ≤ 308 then do x.div? (← Double.powerOfTen? n)
    else if x.significand == 0 then some x
    else do shrink (← x.div? (← Double.powerOfTen? 308)) steps (n - 308)

def approximate (s : Scaled) : Option Double := do
  let x ← Double.ofNat? s.significand
  if s.power < 0 then shrink x 8 s.power.natAbs
  else if s.power.natAbs ≤ 308 then x.mul? (← Double.powerOfTen? s.power.natAbs)
  else if x.significand == 0 then some x
  else none

def double? (n : Literal) : Option Double := do
  let (s, _) := takeWhole n.whole ⟨0, 0⟩
  let s := takeFraction n.fraction s
  let x ← match n.power with
    | none => approximate s
    | some (down, ds) =>
      let p := Digits.value ds
      if powerBound ≤ p then
        if s.significand == 0 || down then some (Double.zero false) else none
      else approximate ⟨s.significand, if down then s.power - p else s.power + p⟩
  return { x with negative := n.negative }

/-- The number a literal denotes: whole if it is written so, fits 64 bits and is not minus zero. -/
def toJson? (n : Literal) : Option Json :=
  let v := Digits.value n.whole
  if n.isWhole && !n.negative && v < UInt64.size then some (.int v)
  else if n.isWhole && n.negative && 0 < v && v ≤ 1 <<< 63 then some (.int (-(v : Int)))
  else n.double?.map .double

end Literal

end TxDispatch.Json
