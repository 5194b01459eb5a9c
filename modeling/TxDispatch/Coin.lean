import TxDispatch.Json.Printer
import TxDispatch.Json.Reader
import TxDispatch.Text.Blank

namespace TxDispatch

open Text

structure Coin where
  amount : BitVec 128
  denom : String
deriving DecidableEq, Repr

/-- Why a text is no coin. Each case carries the text without the blanks around it. -/
inductive CoinError where
  | noDenom (text : String)
  | noAmount (text : String)
  | invalidDenom (text : String)
  | tooLarge (text : String)
deriving DecidableEq, Repr

def CoinError.message : CoinError → String
  | noDenom s => "coin " ++ Quoted.quote s ++ " has no denom"
  | noAmount s => "coin " ++ Quoted.quote s ++ " has no amount"
  | invalidDenom s => "coin " ++ Quoted.quote s ++ " has invalid denom"
  | tooLarge s => "coin " ++ Quoted.quote s ++ ": number too large to fit in target type"

namespace Coin

def isDenomChar (c : Char) : Bool :=
  c.isAlphanum || c == '/' || c == ':' || c == '.' || c == '_' || c == '-'

def isDenom : List Char → Bool
  | [] => false
  | c :: cs => c.isAlpha && 3 ≤ cs.length + 1 && cs.length + 1 ≤ 128 && cs.all isDenomChar

/-- Reads the compact notation. Of several faults the first in the order of the cases counts. -/
def parseChars (cs : List Char) : Except CoinError Coin :=
  let cs := trim cs
  let shown := String.ofList cs
  let digits := cs.takeWhile Char.isDigit
  let denom := cs.dropWhile Char.isDigit
  if denom.isEmpty then .error (.noDenom shown)
  else if digits.isEmpty then .error (.noAmount shown)
  else if !isDenom denom then .error (.invalidDenom shown)
  else match Digits.toWord128? (Digits.value digits) with
    | none => .error (.tooLarge shown)
    | some amount => .ok ⟨amount, String.ofList denom⟩

def parse (s : String) : Except CoinError Coin := parseChars s.toList

def chars (c : Coin) : List Char := Digits.ofNat c.amount.toNat ++ c.denom.toList

def text (c : Coin) : String := String.ofList c.chars

def toJson (c : Coin) : Json :=
  .obj [("amount", .str (Digits.text c.amount.toNat)), ("denom", .str c.denom)]

theorem toJson_injective {a b : Coin} (h : a.toJson = b.toJson) : a = b := by
  simp only [toJson, Json.obj.injEq, List.cons.injEq, Prod.mk.injEq, Json.str.injEq, true_and,
    and_true] at h
  obtain ⟨hamount, hdenom⟩ := h
  have hnat := BitVec.eq_of_toNat_eq (Digits.text_injective hamount)
  cases a
  cases b
  simp_all

/-- An amount as text: digits that one plus sign may precede. -/
def amount? (t : Json.Tree) : Option (BitVec 128) := do
  Digits.toWord128? (← Digits.readSigned? (← t.string?).toList)

/-- Reads the JSON form; neither the denomination nor the amount is checked further. -/
def ofTree? (t : Json.Tree) : Option Coin := do
  match ← t.fields? false ["denom", "amount"] with
  | [denom, amount] =>
    let denom ← Json.Tree.required? Json.Tree.string? denom
    let amount ← Json.Tree.required? amount? amount
    return ⟨amount, denom⟩
  | _ => none

end Coin

namespace Coins

/-- The pieces of a text between commas; there is one more than there are commas. -/
def pieces : List Char → List (List Char)
  | [] => [[]]
  | c :: cs =>
    if c == ',' then [] :: pieces cs
    else match pieces cs with
      | [] => [[c]]
      | p :: ps => (c :: p) :: ps

theorem pieces_eq_splitOn (cs : List Char) : pieces cs = cs.splitOn ',' := by
  induction cs with
  | nil => rfl
  | cons c cs ih =>
    rw [List.splitOn_cons_eq_if_modifyHead, pieces, ih]
    cases h : cs.splitOn ',' with
    | nil => exact absurd h (List.splitOn_ne_nil ',' cs)
    | cons p ps => rfl

theorem pieces_ne_nil (cs : List Char) : pieces cs ≠ [] := by
  rw [pieces_eq_splitOn]
  exact List.splitOn_ne_nil ',' cs

theorem comma_not_mem_of_mem_pieces {cs p : List Char} (h : p ∈ pieces cs) : ',' ∉ p := by
  induction cs generalizing p with
  | nil =>
    obtain rfl := List.mem_singleton.mp h
    exact List.not_mem_nil
  | cons c cs ih =>
    rw [pieces] at h
    split at h
    · rcases List.mem_cons.mp h with rfl | htail
      · exact List.not_mem_nil
      · exact ih htail
    · rename_i hc
      have hcomma : ',' ≠ c := fun heq => hc (beq_iff_eq.mpr heq.symm)
      cases hs : pieces cs with
      | nil => exact absurd hs (pieces_ne_nil cs)
      | cons q qs =>
        rw [hs] at h ih
        rcases List.mem_cons.mp h with rfl | htail
        · simpa [hcomma] using ih (List.mem_cons_self ..)
        · exact ih (List.mem_cons_of_mem _ htail)

/-- Reads the compact notation of a list; a blank text is the empty list. -/
def parse (s : String) : Except CoinError (List Coin) :=
  if isBlank s then .ok [] else (pieces s.toList).mapM Coin.parseChars

def text (coins : List Coin) : String := String.ofList (Json.separate (coins.map Coin.chars))

def toJson (coins : List Coin) : Json := .arr (coins.map Coin.toJson)

theorem toJson_injective {xs ys : List Coin} (h : toJson xs = toJson ys) : xs = ys :=
  (List.map_inj_right fun _ _ => Coin.toJson_injective).mp (Json.arr.inj h)

def ofTree? (t : Json.Tree) : Option (List Coin) := t.list? Coin.ofTree?

theorem parse_of_isBlank {s : String} (h : isBlank s = true) : parse s = .ok [] := by
  simp [parse, h]

end Coins

end TxDispatch
