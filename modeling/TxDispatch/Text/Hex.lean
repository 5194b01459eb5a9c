import TxDispatch.Text.Quoted

namespace TxDispatch.Text.Hex

def worth? (c : Char) : Option Nat :=
  if '0' ≤ c ∧ c ≤ '9' then some (c.toNat - 48)
  else if 'a' ≤ c ∧ c ≤ 'f' then some (c.toNat - 87)
  else if 'A' ≤ c ∧ c ≤ 'F' then some (c.toNat - 55)
  else none

def pair (b : UInt8) : List Char :=
  [Quoted.hexDigit (b.toNat / 16), Quoted.hexDigit (b.toNat % 16)]

def encode (bytes : List UInt8) : List Char := bytes.flatMap pair

/-- Reads whole pairs; a lone digit or any other character is refused. -/
def decode? : List Char → Option (List UInt8)
  | [] => some []
  | [_] => none
  | a :: b :: rest => do
    let high ← worth? a
    let low ← worth? b
    let bytes ← decode? rest
    return UInt8.ofNat (16 * high + low) :: bytes

def text (bytes : List UInt8) : String := String.ofList (encode bytes)

end TxDispatch.Text.Hex
