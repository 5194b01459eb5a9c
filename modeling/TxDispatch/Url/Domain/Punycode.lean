namespace TxDispatch.Url.Domain.Punycode

def worth? (c : Char) : Option Nat :=
  if c.isLower then some (c.toNat - 97)
  else if c.isUpper then some (c.toNat - 65)
  else if c.isDigit then some (c.toNat - 22)
  else none

def threshold (position bias : Nat) : Nat :=
  if position ≤ bias then 1 else if bias + 26 ≤ position then 26 else position - bias

def number? (bias : Nat) : (position weight total : Nat) → List Char → Option (Nat × List Char)
  | _, _, _, [] => none
  | position, weight, total, c :: cs => do
    let d ← worth? c
    let t := threshold position bias
    let total := total + d * weight
    if d < t then return (total, cs)
    number? bias (position + 36) (weight * (36 - t)) total cs

/-- Divides by 35 until at most 455 is left, and counts 36 for each division. No step is without
effect as long as there are at most so many of them as the number tells. -/
def settle : (limit delta count : Nat) → Nat × Nat
  | 0, delta, count => (delta, count)
  | limit + 1, delta, count =>
    if 455 < delta then settle limit (delta / 35) (count + 36) else (delta, count)

def adapt (delta length : Nat) (first : Bool) : Nat :=
  let delta := if first then delta / 700 else delta / 2
  let (delta, count) := settle delta (delta + delta / length) 0
  count + 36 * delta / (delta + 38)

/-- Reads the numbers of a text and puts in the characters they give. Each number takes up at least
one character of the text, whose length bounds the number of rounds. -/
def insert? : (rounds code place bias : Nat) → (done rest : List Char) → Option (List Char)
  | _, _, _, _, done, [] => some done
  | 0, _, _, _, _, _ => none
  | rounds + 1, code, place, bias, done, rest =>
    match number? bias 36 1 place rest with
    | none => none
    | some (total, rest) =>
      let length := done.length + 1
      let code := code + total / length
      let spot := total % length
      let bias := adapt (total - place) length (place == 0)
      if 0x10FFFF < code || (0xD800 ≤ code && code ≤ 0xDFFF) then none
      else insert? rounds code (spot + 1) bias (done.insertIdx spot (Char.ofNat code)) rest

def cut (cs : List Char) : List Char × List Char :=
  if cs.contains '-' then
    ((cs.reverse.dropWhile (· != '-')).tail.reverse, (cs.reverse.takeWhile (· != '-')).reverse)
  else ([], cs)

def decode? (cs : List Char) : Option (List Char) :=
  let (basic, rest) := cut cs
  if basic.all fun c => c.toNat < 0x80 then insert? rest.length 128 0 72 basic rest else none

end TxDispatch.Url.Domain.Punycode
