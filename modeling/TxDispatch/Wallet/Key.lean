import TxDispatch.Crypto.Keccak
import TxDispatch.Crypto.Secp256k1
import TxDispatch.Text.Digits
import TxDispatch.Text.Hex
import TxDispatch.Text.Utf8

namespace TxDispatch

open Text Crypto

/-- A secret scalar of the curve. -/
structure Key where
  scalar : Nat
  pos : 0 < scalar
  lt : scalar < Secp256k1.order

/-- Why a text gives no key. A character is reported as the byte at its place, which is shown as
the character of that number. -/
inductive KeyError where
  | oddLength
  | wrongLength
  | invalidCharacter (c : Char) (position : Nat)
  | outOfRange
deriving DecidableEq, Repr

def KeyError.message : KeyError → String
  | oddLength => "odd number of digits"
  | wrongLength => "invalid string length"
  | invalidCharacter c i => "invalid character " ++ shown c ++ " at position " ++ Digits.text i
  | outOfRange => "signature error"
where
  /-- A character between single quotes. -/
  shown (c : Char) : String :=
    String.ofList (if c == '\x27' then ['\x27', '\\', c, '\x27']
      else if c == '\x22' then ['\x27', c, '\x27']
      else '\x27' :: Quoted.escape c ++ ['\x27'])

namespace Key

def stripMarker : List Char → List Char
  | '0' :: 'x' :: cs => cs
  | cs => cs

def stripEitherMarker : List Char → List Char
  | '0' :: 'x' :: cs => cs
  | '0' :: 'X' :: cs => cs
  | cs => cs

def firstInvalid? (bytes : List UInt8) : Option (Char × Nat) :=
  let letters := bytes.map fun b => Char.ofNat b.toNat
  (letters.zipIdx.find? fun p => (Hex.worth? p.1).isNone)

def digits? (cs : List Char) : Except KeyError (List UInt8) :=
  let bytes := Utf8.encode cs
  if bytes.length % 2 = 1 then .error .oddLength
  else if bytes.length ≠ 64 then .error .wrongLength
  else match firstInvalid? bytes with
    | some (c, i) => .error (.invalidCharacter c i)
    | none => .ok ((Hex.decode? cs).getD [])

/-- Reads a key: two layers of markers may stand in front of 64 hexadecimal digits. -/
def parse (s : String) : Except KeyError Key :=
  match digits? (stripEitherMarker (stripMarker s.toList)) with
  | .error e => .error e
  | .ok bytes =>
    if h : 0 < natOfBytes bytes ∧ natOfBytes bytes < Secp256k1.order then
      .ok ⟨natOfBytes bytes, h.1, h.2⟩
    else .error .outOfRange

def publicPoint (k : Key) : Secp256k1.Affine := Secp256k1.baseTimes k.scalar

def publicKey (k : Key) : List UInt8 := Secp256k1.compressed k.publicPoint

/-- The hexadecimal digits of an address, with a letter in upper case where the digest of the lower
case digits has a half byte of eight or more. -/
def checksummed (digits : List Char) : List Char :=
  let digest := Hex.encode (Keccak.hash256 (Utf8.encode digits))
  (digits.zip digest).map fun (d, h) => if 8 ≤ (Hex.worth? h).getD 0 then d.toUpper else d

/-- The address of a key: the last 20 bytes of the digest of the public point. -/
def address (k : Key) : String :=
  let digest := Keccak.hash256 (Secp256k1.coordinates k.publicPoint)
  String.ofList ('0' :: 'x' :: checksummed (Hex.encode (digest.drop 12)))

def sign (k : Key) (digest : List UInt8) : List UInt8 :=
  (Secp256k1.sign k.scalar (natOfBytes digest)).bytes

end Key

end TxDispatch
