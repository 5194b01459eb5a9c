import TxDispatch.Text.Visible

namespace TxDispatch.Text.Quoted

def hexDigit (n : Nat) : Char := if n < 10 then Char.ofNat (48 + n) else Char.ofNat (87 + n)

/-- A code point in hexadecimal without leading zeros; six digits hold every code point. -/
def hexDigits (n : Nat) : List Char :=
  let ds := [20, 16, 12, 8, 4].map fun shift => hexDigit (n >>> shift % 16)
  ds.dropWhile (· == '0') ++ [hexDigit (n % 16)]

def escape (c : Char) : List Char :=
  if c == '\x22' then ['\\', c]
  else if c == '\\' then ['\\', c]
  else if c == '\n' then ['\\', 'n']
  else if c == '\r' then ['\\', 'r']
  else if c == '\t' then ['\\', 't']
  else if c == '\x00' then ['\\', '0']
  else if isVisible c then [c]
  else ['\\', 'u', '{'] ++ hexDigits c.toNat ++ ['}']

def quote (s : String) : String :=
  String.ofList ('\x22' :: s.toList.flatMap escape ++ ['\x22'])

end TxDispatch.Text.Quoted
