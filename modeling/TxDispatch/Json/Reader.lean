import TxDispatch.Json.Tree
import TxDispatch.Text.Hex

namespace TxDispatch.Json.Reader

open Text (Hex.worth?)

def isGap (c : Char) : Bool := c == ' ' || c == '\t' || c == '\n' || c == '\r'

def skipGaps (cs : List Char) : List Char := cs.dropWhile isGap

/-- A piece of a string: a character, or a code unit that was named by number. -/
inductive Piece where
  | char (c : Char)
  | unit (n : Nat)

def shortEscape? (c : Char) : Option Char :=
  if c == '\x22' || c == '\\' || c == '/' then some c
  else if c == 'b' then some '\x08'
  else if c == 'f' then some '\x0c'
  else if c == 'n' then some '\n'
  else if c == 'r' then some '\r'
  else if c == 't' then some '\t'
  else none

def fourDigits? (a b c d : Char) : Option Nat := do
  return ((← Hex.worth? a) * 16 + (← Hex.worth? b)) * 256 + (← Hex.worth? c) * 16 + (← Hex.worth? d)

def pieces : List Char → Option (List Piece × List Char)
  | [] => none
  | '\x22' :: rest => some ([], rest)
  | '\\' :: 'u' :: a :: b :: c :: d :: rest =>
    match fourDigits? a b c d with
    | none => none
    | some n => (pieces rest).map fun r => (.unit n :: r.1, r.2)
  | '\\' :: c :: rest =>
    match shortEscape? c with
    | none => none
    | some e => (pieces rest).map fun r => (.char e :: r.1, r.2)
  | c :: rest =>
    if c.toNat < 0x20 || c == '\\' then none
    else (pieces rest).map fun r => (.char c :: r.1, r.2)

def isHighHalf (n : Nat) : Bool := 0xD800 ≤ n && n < 0xDC00

def isLowHalf (n : Nat) : Bool := 0xDC00 ≤ n && n < 0xE000

/-- The characters of the pieces: two halves that follow each other make one, and a half that
stands alone makes none. -/
def join : List Piece → Option (List Char)
  | [] => some []
  | .char c :: rest => (join rest).map (c :: ·)
  | .unit high :: .unit low :: rest =>
    if isHighHalf high then
      if isLowHalf low then
        (join rest).map (Char.ofNat (0x10000 + (high - 0xD800) * 0x400 + (low - 0xDC00)) :: ·)
      else none
    else if isLowHalf high then none
    else (join (.unit low :: rest)).map (Char.ofNat high :: ·)
  | .unit n :: rest =>
    if isHighHalf n || isLowHalf n then none else (join rest).map (Char.ofNat n :: ·)

def string (cs : List Char) : Option (Option String × List Char) :=
  (pieces cs).map fun r => ((join r.1).map String.ofList, r.2)

def digits (cs : List Char) : List Char × List Char :=
  (cs.takeWhile Char.isDigit, cs.dropWhile Char.isDigit)

def fraction : List Char → Option (List Char × List Char)
  | '.' :: cs =>
    let (ds, rest) := digits cs
    if ds.isEmpty then none else some (ds, rest)
  | cs => some ([], cs)

def power : List Char → Option (Option (Bool × List Char) × List Char)
  | c :: cs =>
    if c == 'e' || c == 'E' then
      let (down, cs) := match cs with
        | '-' :: cs => (true, cs)
        | '+' :: cs => (false, cs)
        | cs => (false, cs)
      let (ds, rest) := digits cs
      if ds.isEmpty then none else some (some (down, ds), rest)
    else some (none, c :: cs)
  | [] => some (none, [])

/-- A number literal. Digits before the point do not start with a zero, unless it is the only
one. -/
def literal (cs : List Char) : Option (Literal × List Char) := do
  let (negative, cs) := match cs with
    | '-' :: cs => (true, cs)
    | cs => (false, cs)
  let (whole, cs) ← match cs with
    | '0' :: cs => some (['0'], cs)
    | cs => if (digits cs).1.isEmpty then none else some (digits cs)
  let (fraction, cs) ← fraction cs
  let (power, cs) ← power cs
  return (⟨negative, whole, fraction, power⟩, cs)

mutual

def value : (fuel : Nat) → List Char → Option (Tree × List Char)
  | 0, _ => none
  | fuel + 1, cs =>
    match skipGaps cs with
    | 'n' :: 'u' :: 'l' :: 'l' :: rest => some (.null, rest)
    | 't' :: 'r' :: 'u' :: 'e' :: rest => some (.bool true, rest)
    | 'f' :: 'a' :: 'l' :: 's' :: 'e' :: rest => some (.bool false, rest)
    | '\x22' :: rest => (string rest).map fun r => (.str r.1, r.2)
    | '[' :: rest =>
      match skipGaps rest with
      | ']' :: rest => some (.arr [], rest)
      | rest => (items fuel rest).map fun r => (.arr r.1, r.2)
    | '{' :: rest =>
      match skipGaps rest with
      | '}' :: rest => some (.obj [], rest)
      | rest => (members fuel rest).map fun r => (.obj r.1, r.2)
    | cs => (literal cs).map fun r => (.num r.1, r.2)

def items : (fuel : Nat) → List Char → Option (List Tree × List Char)
  | 0, _ => none
  | fuel + 1, cs =>
    match value fuel cs with
    | none => none
    | some (x, rest) =>
      match skipGaps rest with
      | ',' :: rest => (items fuel rest).map fun r => (x :: r.1, r.2)
      | ']' :: rest => some ([x], rest)
      | _ => none

def members : (fuel : Nat) → List Char → Option (List (Option String × Tree) × List Char)
  | 0, _ => none
  | fuel + 1, cs =>
    match skipGaps cs with
    | '\x22' :: rest =>
      match string rest with
      | none => none
      | some (k, rest) =>
        match skipGaps rest with
        | ':' :: rest =>
          match value fuel rest with
          | none => none
          | some (x, rest) =>
            match skipGaps rest with
            | ',' :: rest => (members fuel rest).map fun r => ((k, x) :: r.1, r.2)
            | '}' :: rest => some ([(k, x)], rest)
            | _ => none
        | _ => none
    | _ => none

end

/-- The tree of a text that holds one value and nothing else. Every second step of the reader
takes a character, which bounds their number. -/
def tree? (cs : List Char) : Option Tree :=
  match value (2 * cs.length + 2) cs with
  | some (t, rest) => if (skipGaps rest).isEmpty then some t else none
  | none => none

end TxDispatch.Json.Reader

namespace TxDispatch.Json

def Tree.ofText? (s : String) : Option Tree := Reader.tree? s.toList

def ofText? (s : String) : Option Json := (Tree.ofText? s).bind (Tree.toJson? depthLimit)

end TxDispatch.Json
