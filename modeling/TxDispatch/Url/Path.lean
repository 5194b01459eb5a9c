import TxDispatch.Url.Percent

namespace TxDispatch.Url

/-- The kinds of schemes: those of the web, that of files, and all others. -/
inductive Kind where
  | web
  | file
  | other
deriving DecidableEq, Repr

/-- A backslash is a slash, except with an unknown scheme. -/
def Kind.isSlash (k : Kind) (c : Char) : Bool := c == '/' || (c == '\\' && k != .other)

inductive Path where
  | segments (names : List String)
  | flat (text : String)
deriving DecidableEq, Repr

namespace Path

def split (k : Kind) : List Char → List (List Char)
  | [] => [[]]
  | c :: cs =>
    if k.isSlash c then [] :: split k cs
    else match split k cs with
      | [] => [[c]]
      | piece :: rest => (c :: piece) :: rest

/-- A dot, as it stands or by its number. -/
def afterDot? : List Char → Option (List Char)
  | '.' :: cs => some cs
  | '%' :: '2' :: 'e' :: cs => some cs
  | '%' :: '2' :: 'E' :: cs => some cs
  | _ => none

def isDot (piece : List Char) : Bool := afterDot? piece == some []

def isDoubleDot (piece : List Char) : Bool := ((afterDot? piece).bind afterDot?) == some []

/-- A letter and a colon, the colon perhaps as a bar: the drive at the front of a file path. -/
def isDrive : List Char → Bool
  | [c, d] => c.isAlpha && (d == ':' || d == '|')
  | _ => false

def up (k : Kind) (names : List String) : List String :=
  if k == .file && names.getLast?.any fun name => isDrive name.toList then names
  else names.dropLast

def name (k : Kind) (piece : List Char) : String :=
  if k == .file && isDrive piece then String.ofList (piece.take 1 ++ [':'])
  else String.ofList (Percent.encode Percent.inPath piece)

/-- Follows the pieces of a path from a place. A dot segment at the end leaves an empty name, so
that the path ends with a slash. -/
def follow (k : Kind) : (place : List String) → List (List Char) → List String
  | place, [] => place
  | place, [last] =>
    if isDoubleDot last then up k place ++ [""]
    else if isDot last then place ++ [""]
    else place ++ [name k last]
  | place, piece :: rest =>
    if isDoubleDot piece then follow k (up k place) rest
    else if isDot piece then follow k place rest
    else follow k (place ++ [name k piece]) rest

/-- The place that a text after its first slash leads to. A file path does not begin with empty
names. -/
def ofText (k : Kind) (place : List String) (cs : List Char) : Path :=
  let names := follow k place (split k cs)
  if k == .file then
    match names.dropWhile (·.isEmpty) with
    | [] => segments [""]
    | names => segments names
  else segments names

def text : Path → String
  | segments names => String.join (names.map ("/" ++ ·))
  | flat text => text

def hasDrive : Path → Bool
  | segments names => names.any fun name => isDrive name.toList
  | flat _ => false

def asFolder : Path → Path
  | segments names => if names.getLast? == some "" then segments names else segments (names ++ [""])
  | flat text => if text.endsWith "/" then flat text else flat (text ++ "/")

theorem split_ne_nil (k : Kind) (cs : List Char) : split k cs ≠ [] := by
  cases cs with
  | nil => simp [split]
  | cons c cs =>
    unfold split
    split
    · simp
    · split <;> simp

end Path

end TxDispatch.Url
