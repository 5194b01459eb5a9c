import TxDispatch.Text.Hex
import TxDispatch.Text.Utf8

namespace TxDispatch.Url.Percent

open Text

def hexDigit (n : Nat) : Char := if n < 10 then Char.ofNat (48 + n) else Char.ofNat (55 + n)

def triple (b : UInt8) : List Char := ['%', hexDigit (b.toNat / 16), hexDigit (b.toNat % 16)]

/-- Writes the characters of a set by their bytes and leaves the others. A percent sign that is
there already stays. -/
def encode (escaped : Char → Bool) (cs : List Char) : List Char :=
  cs.flatMap fun c => if escaped c then (Utf8.encode [c]).flatMap triple else [c]

/-- The bytes that a text stands for. A percent sign without two digits stands for itself. -/
def decode : List Char → List UInt8
  | [] => []
  | '%' :: a :: b :: rest =>
    match Hex.worth? a, Hex.worth? b with
    | some high, some low => UInt8.ofNat (16 * high + low) :: decode rest
    | _, _ => Utf8.encode ['%'] ++ decode (a :: b :: rest)
  | c :: rest => Utf8.encode [c] ++ decode rest

def isControl (c : Char) : Bool := c.toNat < 0x20 || 0x7F ≤ c.toNat

def inFragment (c : Char) : Bool := isControl c || " \x22<>`".toList.contains c

def inPath (c : Char) : Bool := inFragment c || "#?\x7b\x7d".toList.contains c

def inUserinfo (c : Char) : Bool := inPath c || "/:;=@[\\]^|".toList.contains c

/-- The set of a query, which has one more character with a known scheme. -/
def inQuery (known : Bool) (c : Char) : Bool :=
  isControl c || " \x22#<>".toList.contains c || (known && c == '\x27')

def isFormByte (b : UInt8) : Bool :=
  let c := Char.ofNat b.toNat
  c.isAlphanum || c == '*' || c == '-' || c == '.' || c == '_'

/-- The text of a value in a form: the space becomes a plus sign, and every byte that a form does
not keep is written by number. -/
def formEncode (cs : List Char) : List Char :=
  (Utf8.encode cs).flatMap fun b =>
    if isFormByte b then [Char.ofNat b.toNat] else if b == 0x20 then ['+'] else triple b

theorem encode_append (escaped : Char → Bool) (a b : List Char) :
    encode escaped (a ++ b) = encode escaped a ++ encode escaped b := by
  simp [encode]

end TxDispatch.Url.Percent
