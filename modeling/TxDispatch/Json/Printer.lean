import TxDispatch.Json.Value
import TxDispatch.Decimal.Shortest
import TxDispatch.Text.Quoted

namespace TxDispatch.Json

open Text (Digits.ofNat Quoted.hexDigit)

/-- One character of a string. The quote, the backslash and the controls are escaped, the latter
by a short escape where there is one. -/
def escape (c : Char) : List Char :=
  if c == '\x22' then ['\\', c]
  else if c == '\\' then ['\\', c]
  else if c == '\x08' then ['\\', 'b']
  else if c == '\x0c' then ['\\', 'f']
  else if c == '\n' then ['\\', 'n']
  else if c == '\r' then ['\\', 'r']
  else if c == '\t' then ['\\', 't']
  else if c.toNat < 0x20 then
    ['\\', 'u', '0', '0', Quoted.hexDigit (c.toNat / 16), Quoted.hexDigit (c.toNat % 16)]
  else [c]

def renderString (s : String) : List Char := '\x22' :: s.toList.flatMap escape ++ ['\x22']

def renderInt (n : Int) : List Char :=
  if n < 0 then '-' :: Digits.ofNat n.natAbs else Digits.ofNat n.natAbs

/-- The places at which a double stops being written positionally. -/
structure Positional where
  /-- The least exponent of a leading digit that is still written with leading zeros. -/
  least : Int
  /-- The least exponent of a leading digit that is written with a power of ten. -/
  beyond : Int

/-- Doubles are written positionally from `1e-5` up to but not including `1e16`. -/
def positional : Positional := ⟨-5, 16⟩

/-- The digits of a positive decimal: positional with at least one place after the point, or one
digit before it and a power of ten. -/
def renderDecimal (d : Decimal) : List Char :=
  let d := d.normal
  let ds := Digits.ofNat d.digits
  let lead : Int := d.exponent + (ds.length : Int) - 1
  if lead < positional.least ∨ positional.beyond ≤ lead then
    let rest := ds.drop 1
    ds.take 1 ++ (if rest.isEmpty then [] else '.' :: rest) ++ 'e' ::
      (if lead < 0 then '-' else '+') :: Digits.ofNat lead.natAbs
  else if lead < 0 then
    '0' :: '.' :: List.replicate (lead.natAbs - 1) '0' ++ ds
  else if 0 ≤ d.exponent then
    ds ++ List.replicate d.exponent.toNat '0' ++ ['.', '0']
  else
    ds.take (lead.toNat + 1) ++ '.' :: ds.drop (lead.toNat + 1)

/-- A double in the fewest digits that read back, always with a point or a power of ten. -/
def renderDouble (x : Double) : List Char :=
  let body := if x.significand == 0 then ['0', '.', '0'] else renderDecimal (Decimal.shortest x)
  if x.negative then '-' :: body else body

def separate : List (List Char) → List Char
  | [] => []
  | [x] => x
  | x :: y :: rest => x ++ ',' :: separate (y :: rest)

theorem separate_eq_intercalate (xs : List (List Char)) : separate xs = [','].intercalate xs := by
  fun_induction separate xs with
  | case1 | case2 => simp
  | case3 x y rest ih => rw [List.intercalate_cons_cons, ih, List.append_assoc, List.singleton_append]

theorem mem_separate {c : Char} {xs : List (List Char)} (h : c ∈ separate xs) :
    c = ',' ∨ ∃ x ∈ xs, c ∈ x := by
  fun_induction separate xs with
  | case1 => cases h
  | case2 x => exact .inr ⟨x, by simp, h⟩
  | case3 x y rest ih =>
    rcases List.mem_append.mp h with hx | htail
    · exact .inr ⟨x, by simp, hx⟩
    · rcases List.mem_cons.mp htail with rfl | hrest
      · exact .inl rfl
      · exact (ih hrest).imp_right fun ⟨z, hz, hc⟩ => ⟨z, List.mem_cons_of_mem _ hz, hc⟩

mutual

def render : Json → List Char
  | null => ['n', 'u', 'l', 'l']
  | bool true => ['t', 'r', 'u', 'e']
  | bool false => ['f', 'a', 'l', 's', 'e']
  | int n => renderInt n
  | double x => renderDouble x
  | str s => renderString s
  | arr items => '[' :: separate (renderItems items) ++ [']']
  | obj members => '{' :: separate (renderMembers members) ++ ['}']

def renderItems : List Json → List (List Char)
  | [] => []
  | x :: xs => render x :: renderItems xs

def renderMembers : List (String × Json) → List (List Char)
  | [] => []
  | (k, v) :: rest => (renderString k ++ ':' :: render v) :: renderMembers rest

end

def text (v : Json) : String := String.ofList v.render

end TxDispatch.Json
