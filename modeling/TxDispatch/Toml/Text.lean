import TxDispatch.Text.Hex
import TxDispatch.Text.Reader

namespace TxDispatch.Toml

open Text

def isGap (c : Char) : Bool := c == ' ' || c == '\t'

def skipGaps (cs : List Char) : List Char := cs.dropWhile isGap

def lineEnd? : List Char → Option (List Char)
  | '\n' :: cs => some cs
  | '\r' :: '\n' :: cs => some cs
  | _ => none

/-- A character that may stand in a comment and, quotes and backslashes apart, in a string. -/
def isPlain (c : Char) : Bool := c == '\t' || (0x20 ≤ c.toNat && c.toNat != 0x7F)

def skipComment (cs : List Char) : List Char :=
  match skipGaps cs with
  | '#' :: cs => cs.dropWhile isPlain
  | cs => cs

def nextLine? (cs : List Char) : Option (List Char) :=
  match skipComment cs with
  | [] => some []
  | cs => lineEnd? cs

/-- Skips gaps, line ends and comments. A comment goes on until its line ends. -/
def skipLines : (comment : Bool) → List Char → List Char
  | _, [] => []
  | _, '\n' :: cs => skipLines false cs
  | _, '\r' :: '\n' :: cs => skipLines false cs
  | true, c :: cs => if isPlain c then skipLines true cs else c :: cs
  | false, c :: cs =>
    if isGap c then skipLines false cs
    else if c == '#' then skipLines true cs
    else c :: cs

def shortEscape? (c : Char) : Option Char :=
  if c == '\x22' || c == '\\' then some c
  else if c == 'b' then some '\x08'
  else if c == 'f' then some '\x0c'
  else if c == 'n' then some '\n'
  else if c == 'r' then some '\r'
  else if c == 't' then some '\t'
  else none

def scalar? (digits : List Char) : Option Char := do
  let values ← digits.mapM Hex.worth?
  let n := values.foldl (fun n d => 16 * n + d) 0
  if n < 0xD800 || (0xDFFF < n && n < 0x110000) then some (Char.ofNat n) else none

def before (c : Char) (r : Option (List Char × List Char)) : Option (List Char × List Char) :=
  r.map fun r => (c :: r.1, r.2)

def beforeEscaped (c : Option Char) (r : Option (List Char × List Char)) :
    Option (List Char × List Char) :=
  c.bind fun c => before c r

def basic : Reader (List Char)
  | [] => none
  | '\x22' :: rest => some ([], rest)
  | '\\' :: 'u' :: a :: b :: c :: d :: rest => beforeEscaped (scalar? [a, b, c, d]) (basic rest)
  | '\\' :: 'U' :: a :: b :: c :: d :: e :: f :: g :: h :: rest =>
    beforeEscaped (scalar? [a, b, c, d, e, f, g, h]) (basic rest)
  | '\\' :: c :: rest => beforeEscaped (shortEscape? c) (basic rest)
  | c :: rest => if isPlain c && c != '\\' then before c (basic rest) else none

def literal : Reader (List Char)
  | [] => none
  | '\x27' :: rest => some ([], rest)
  | c :: rest => if isPlain c then before c (literal rest) else none

/-- The rest of a string with escapes on any number of lines. Up to two quotes in a row belong to
it; a backslash at the end of a line joins it to the next text, which the flag tells. -/
def basicLines : (joining : Bool) → Reader (List Char)
  | _, [] => none
  | _, '\x22' :: '\x22' :: '\x22' :: '\x22' :: '\x22' :: rest => some (['\x22', '\x22'], rest)
  | _, '\x22' :: '\x22' :: '\x22' :: '\x22' :: rest => some (['\x22'], rest)
  | _, '\x22' :: '\x22' :: '\x22' :: rest => some ([], rest)
  | _, '\\' :: 'u' :: a :: b :: c :: d :: rest =>
    beforeEscaped (scalar? [a, b, c, d]) (basicLines false rest)
  | _, '\\' :: 'U' :: a :: b :: c :: d :: e :: f :: g :: h :: rest =>
    beforeEscaped (scalar? [a, b, c, d, e, f, g, h]) (basicLines false rest)
  | joining, '\n' :: rest =>
    if joining then basicLines true rest else before '\n' (basicLines false rest)
  | joining, '\r' :: '\n' :: rest =>
    if joining then basicLines true rest else before '\n' (basicLines false rest)
  | _, '\\' :: c :: rest =>
    if (lineEnd? (skipGaps (c :: rest))).isSome then basicLines true (c :: rest)
    else beforeEscaped (shortEscape? c) (basicLines false rest)
  | joining, c :: rest =>
    if joining && isGap c then basicLines true rest
    else if isPlain c && c != '\\' then before c (basicLines false rest)
    else none

def literalLines : Reader (List Char)
  | [] => none
  | '\x27' :: '\x27' :: '\x27' :: '\x27' :: '\x27' :: rest => some (['\x27', '\x27'], rest)
  | '\x27' :: '\x27' :: '\x27' :: '\x27' :: rest => some (['\x27'], rest)
  | '\x27' :: '\x27' :: '\x27' :: rest => some ([], rest)
  | '\n' :: rest => before '\n' (literalLines rest)
  | '\r' :: '\n' :: rest => before '\n' (literalLines rest)
  | c :: rest => if isPlain c then before c (literalLines rest) else none

/-- A line end right after the opening quotes does not count. -/
def skipFirstLineEnd (cs : List Char) : List Char := (lineEnd? cs).getD cs

def string : Reader String := fun cs =>
  let text : Option (List Char × List Char) := match cs with
    | '\x22' :: '\x22' :: '\x22' :: rest => basicLines false (skipFirstLineEnd rest)
    | '\x22' :: rest => basic rest
    | '\x27' :: '\x27' :: '\x27' :: rest => literalLines (skipFirstLineEnd rest)
    | '\x27' :: rest => literal rest
    | _ => none
  text.map fun r => (String.ofList r.1, r.2)

def isBare (c : Char) : Bool := c.isAlphanum || c == '-' || c == '_'

def name : Reader String := fun cs =>
  let text : Option (List Char × List Char) := match cs with
    | '\x22' :: rest => basic rest
    | '\x27' :: rest => literal rest
    | cs => if (cs.takeWhile isBare).isEmpty then none
      else some (cs.takeWhile isBare, cs.dropWhile isBare)
  text.map fun r => (String.ofList r.1, r.2)

def names : (limit : Nat) → Reader (List String)
  | 0, _ => none
  | limit + 1, cs =>
    match name (skipGaps cs) with
    | none => none
    | some (first, rest) =>
      match skipGaps rest with
      | '.' :: rest => (names limit rest).map fun r => (first :: r.1, r.2)
      | rest => some ([first], rest)

def limit : Nat := 80

def key : Reader (List String) := names (limit - 1)

end TxDispatch.Toml
