import TxDispatch.Json.Reader

namespace TxDispatch.Json.Grammar

open Reader (Piece)
open Text (Hex.worth?)

def Gap (cs : List Char) : Prop := ∀ c ∈ cs, c ∈ [' ', '\t', '\n', '\r']

def shortEscapes : List (Char × Char) := [('\x22', '\x22'), ('\\', '\\'), ('/', '/'), ('b', '\x08'),
  ('f', '\x0c'), ('n', '\n'), ('r', '\r'), ('t', '\t')]

/-- A piece of a string: a character as it is or by a short escape, or a code unit by its number in
four hexadecimal digits. -/
inductive PieceText : Piece → List Char → Prop where
  | plain {c : Char} (quote : c ≠ '\x22') (backslash : c ≠ '\\') (visible : 0x20 ≤ c.toNat) :
    PieceText (.char c) [c]
  | short {e c : Char} (listed : (e, c) ∈ shortEscapes) : PieceText (.char c) ['\\', e]
  | numbered {a b c d : Char} {i j k l : Nat} (ha : Hex.worth? a = some i)
    (hb : Hex.worth? b = some j) (hc : Hex.worth? c = some k) (hd : Hex.worth? d = some l) :
    PieceText (.unit (4096 * i + 256 * j + 16 * k + l)) ['\\', 'u', a, b, c, d]

inductive PieceTexts : List Piece → List Char → Prop where
  | nil : PieceTexts [] []
  | cons {p : Piece} {ps : List Piece} {cs rest : List Char} (first : PieceText p cs)
    (more : PieceTexts ps rest) : PieceTexts (p :: ps) (cs ++ rest)

/-- The characters that pieces spell. A code unit is a character unless it is half of one, and a high
half with a low one behind it makes one beyond the first 65536. -/
inductive Spells : List Piece → List Char → Prop where
  | nil : Spells [] []
  | char {ps : List Piece} {cs : List Char} (c : Char) (rest : Spells ps cs) :
    Spells (.char c :: ps) (c :: cs)
  | unit {n : Nat} {ps : List Piece} {cs : List Char} (whole : n < 0xD800 ∨ 0xE000 ≤ n)
    (rest : Spells ps cs) : Spells (.unit n :: ps) (Char.ofNat n :: cs)
  | pair {m n : Nat} {ps : List Piece} {cs : List Char} (high : 0xD800 ≤ m ∧ m < 0xDC00)
    (low : 0xDC00 ≤ n ∧ n < 0xE000) (rest : Spells ps cs) :
    Spells (.unit m :: .unit n :: ps)
      (Char.ofNat (0x10000 + (m - 0xD800) * 0x400 + (n - 0xDC00)) :: cs)

/-- A string between its quotes. Pieces that leave half a character alone spell none. -/
inductive StringText : Option String → List Char → Prop where
  | whole {ps : List Piece} {cs text : List Char} (written : PieceTexts ps text)
    (spelled : Spells ps cs) : StringText (some (String.ofList cs)) text
  | broken {ps : List Piece} {text : List Char} (written : PieceTexts ps text)
    (unspelled : ∀ cs, ¬ Spells ps cs) : StringText none text

inductive PowerText : Option (Bool × List Char) → List Char → Prop where
  | none : PowerText none []
  | up {e : Char} {sign ds : List Char} (he : e = 'e' ∨ e = 'E') (hsign : sign = [] ∨ sign = ['+'])
    (nonempty : ds ≠ []) (digits : ∀ c ∈ ds, c.isDigit = true) :
    PowerText (some (false, ds)) (e :: (sign ++ ds))
  | down {e : Char} {ds : List Char} (he : e = 'e' ∨ e = 'E') (nonempty : ds ≠ [])
    (digits : ∀ c ∈ ds, c.isDigit = true) : PowerText (some (true, ds)) (e :: '-' :: ds)

/-- The digits after a number's point, which stands there if there are any. -/
inductive FractionText : List Char → List Char → Prop where
  | none : FractionText [] []
  | some {ds : List Char} (nonempty : ds ≠ []) (digits : ∀ c ∈ ds, c.isDigit = true) :
    FractionText ds ('.' :: ds)

/-- Digits before a point: a zero stands in front of no others. -/
structure WholeText (ds : List Char) : Prop where
  nonempty : ds ≠ []
  digits : ∀ c ∈ ds, c.isDigit = true
  lean : ds.head? = some '0' → ds = ['0']

inductive NumberText : Literal → List Char → Prop where
  | mk {negative : Bool} {whole fraction fractionText powerText : List Char}
    {power : Option (Bool × List Char)} (hwhole : WholeText whole)
    (hfraction : FractionText fraction fractionText) (hpower : PowerText power powerText) :
    NumberText ⟨negative, whole, fraction, power⟩
      ((if negative then ['-'] else []) ++ (whole ++ (fractionText ++ powerText)))

/-- The name of a member, with any white space around it. -/
inductive NameText : Option String → List Char → Prop where
  | mk {k : Option String} {before cs after : List Char} (hbefore : Gap before)
    (h : StringText k cs) (hafter : Gap after) :
    NameText k (before ++ '\x22' :: (cs ++ '\x22' :: after))

mutual

inductive ValueText : Tree → List Char → Prop where
  | null : ValueText .null ['n', 'u', 'l', 'l']
  | yes : ValueText (.bool true) ['t', 'r', 'u', 'e']
  | no : ValueText (.bool false) ['f', 'a', 'l', 's', 'e']
  | number {n : Literal} {cs : List Char} (h : NumberText n cs) : ValueText (.num n) cs
  | string {s : Option String} {cs : List Char} (h : StringText s cs) :
    ValueText (.str s) ('\x22' :: (cs ++ ['\x22']))
  | emptyArray {gap : List Char} (h : Gap gap) : ValueText (.arr []) ('[' :: (gap ++ [']']))
  | array {xs : List Tree} {cs : List Char} (h : ItemTexts xs cs) :
    ValueText (.arr xs) ('[' :: (cs ++ [']']))
  | emptyObject {gap : List Char} (h : Gap gap) :
    ValueText (.obj []) ('\x7b' :: (gap ++ ['\x7d']))
  | object {ms : List (Option String × Tree)} {cs : List Char} (h : MemberTexts ms cs) :
    ValueText (.obj ms) ('\x7b' :: (cs ++ ['\x7d']))

/-- A value with any white space around it. -/
inductive Document : Tree → List Char → Prop where
  | mk {t : Tree} {before cs after : List Char} (hbefore : Gap before) (h : ValueText t cs)
    (hafter : Gap after) : Document t (before ++ (cs ++ after))

inductive ItemTexts : List Tree → List Char → Prop where
  | last {x : Tree} {cs : List Char} (hx : Document x cs) : ItemTexts [x] cs
  | more {x : Tree} {xs : List Tree} {cs rest : List Char} (hx : Document x cs)
    (hxs : ItemTexts xs rest) : ItemTexts (x :: xs) (cs ++ ',' :: rest)

inductive MemberTexts : List (Option String × Tree) → List Char → Prop where
  | last {k : Option String} {x : Tree} {name cs : List Char} (hk : NameText k name)
    (hx : Document x cs) : MemberTexts [(k, x)] (name ++ ':' :: cs)
  | more {k : Option String} {x : Tree} {ms : List (Option String × Tree)}
    {name cs rest : List Char} (hk : NameText k name) (hx : Document x cs)
    (hms : MemberTexts ms rest) : MemberTexts ((k, x) :: ms) (name ++ ':' :: (cs ++ ',' :: rest))

end

end TxDispatch.Json.Grammar
