import TxDispatch.Json.Tree
import TxDispatch.Toml.Text

namespace TxDispatch.Toml

open Text Json

def digits (isDigit : Char → Bool) : List Char → List Char × List Char
  | [] => ([], [])
  | c :: cs =>
    if isDigit c then
      let (ds, rest) := digits isDigit cs
      (c :: ds, rest)
    else match cs with
      | d :: _ => if c == '_' && isDigit d then digits isDigit cs else ([], c :: cs)
      | [] => ([], [c])

def someDigits (isDigit : Char → Bool) : Reader (List Char) := fun cs =>
  if cs.head?.any isDigit then some (digits isDigit cs) else none

def valueIn (base : Nat) (ds : List Char) : Nat :=
  ds.foldl (fun n d => base * n + (Hex.worth? d).getD 0) 0

def isDigitOf (base : Nat) (c : Char) : Bool := (Hex.worth? c).any (· < base)

def whole? (negative : Bool) (n : Nat) : Option Tree :=
  if n < 1 <<< 63 || (negative && n == 1 <<< 63) then
    some (.num ⟨negative && n != 0, Digits.ofNat n, [], none⟩)
  else none

def notWhole : Tree := .num ⟨false, ['0'], ['0'], none⟩

/-- Whether a number is too large for a double: halfway between the greatest one and the next power
of two, or beyond. -/
def isTooLarge (significand : Nat) (power : Int) : Bool :=
  let size : Int := (Digits.ofNat significand).length + power
  if significand == 0 || size < 300 then false
  else if 320 < size then true
  else
    let bound := 1 <<< 1024 - 1 <<< 970
    if power < 0 then bound * Nat.pow 10 power.natAbs ≤ significand
    else bound ≤ significand * Nat.pow 10 power.natAbs

def sign : List Char → Bool × List Char
  | '-' :: cs => (true, cs)
  | '+' :: cs => (false, cs)
  | cs => (false, cs)

def fraction : Reader (List Char)
  | '.' :: cs => someDigits Char.isDigit cs
  | _ => none

def power : Reader Int
  | c :: cs => do
    if c != 'e' && c != 'E' then none
    else
      let (down, cs) := sign cs
      let (ds, cs) ← someDigits Char.isDigit cs
      let n : Int := Digits.value ds
      return (if down then -n else n, cs)
  | [] => none

/-- A number in base ten: whole unless it has a point or a power. -/
def decimal (negative : Bool) : Reader Tree := fun cs => do
  let (ds, cs) ← match cs with
    | '0' :: cs => some (['0'], cs)
    | cs => someDigits Char.isDigit cs
  let (part, cs) := match fraction cs with
    | some (part, rest) => (part, rest)
    | none => ([], cs)
  match power cs, part with
  | none, [] => return (← whole? negative (Digits.value ds), cs)
  | exponent, part =>
    let (n, cs) := exponent.getD (0, cs)
    if !negative && isTooLarge (Digits.value (ds ++ part)) (n - part.length) then none
    else return (notWhole, cs)

def based (base : Nat) : Reader Tree := fun cs => do
  let (ds, cs) ← someDigits (isDigitOf base) cs
  return (← whole? false (valueIn base ds), cs)

def number : Reader Tree
  | '0' :: 'x' :: cs => based 16 cs
  | '0' :: 'o' :: cs => based 8 cs
  | '0' :: 'b' :: cs => based 2 cs
  | cs =>
    match sign cs with
    | (_, 'i' :: 'n' :: 'f' :: rest) => some (notWhole, rest)
    | (_, 'n' :: 'a' :: 'n' :: rest) => some (notWhole, rest)
    | (negative, rest) => decimal negative rest

def twoDigits (least greatest : Nat) : Reader Nat
  | a :: b :: cs =>
    let n := Digits.value [a, b]
    if a.isDigit && b.isDigit && least ≤ n && n ≤ greatest then some (n, cs) else none
  | _ => none

def daysOf (year month : Nat) : Nat :=
  if month == 2 then
    if year % 4 == 0 && (year % 100 != 0 || year % 400 == 0) then 29 else 28
  else if [4, 6, 9, 11].contains month then 30
  else 31

def day : Reader Unit
  | a :: b :: c :: d :: cs => do
    if !([a, b, c, d].all Char.isDigit) then none
    else
      let (month, cs) ← twoDigits 1 12 (← Reader.given '-' cs).2
      let (_, cs) ← twoDigits 1 (daysOf (Digits.value [a, b, c, d]) month)
        (← Reader.given '-' cs).2
      return ((), cs)
  | _ => none

def minute : Reader Unit := fun cs => do
  let (_, cs) ← twoDigits 0 23 cs
  let (_, cs) ← twoDigits 0 59 (← Reader.given ':' cs).2
  return ((), cs)

def time : Reader Unit := fun cs => do
  let ((), cs) ← minute cs
  let (_, cs) ← twoDigits 0 60 (← Reader.given ':' cs).2
  return match cs with
    | '.' :: c :: rest =>
      if c.isDigit then ((), rest.dropWhile Char.isDigit) else ((), cs)
    | cs => ((), cs)

def offset : Reader Unit
  | c :: cs =>
    if c == 'Z' || c == 'z' then some ((), cs)
    else if c == '+' || c == '-' then minute cs
    else none
  | [] => none

/-- What may follow a day: a time of day, and then its distance from universal time. -/
def afterDay (cs : List Char) : List Char :=
  match cs with
  | c :: rest =>
    if c == 'T' || c == 't' || c == ' ' then
      match time rest with
      | some ((), rest) => ((offset rest).map Prod.snd).getD rest
      | none => cs
    else cs
  | [] => cs

def aDate : Tree := .obj [(some "", .null)]

def date : Reader Tree := fun cs =>
  match day cs with
  | some ((), rest) => some (aDate, afterDay rest)
  | none => (time cs).map fun r => (aDate, r.2)

def quantity : Reader Tree := fun cs => (date cs).orElse fun _ => number cs

end TxDispatch.Toml
