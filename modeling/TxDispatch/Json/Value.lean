import TxDispatch.Decimal.Double

namespace TxDispatch

/-- A JSON value. Numbers are whole numbers or doubles, and which of the two a literal gives is a
matter of its form and size. -/
inductive Json where
  | null
  | bool (b : Bool)
  | int (n : Int)
  | double (x : Double)
  | str (s : String)
  | arr (items : List Json)
  | obj (members : List (String × Json))
deriving Inhabited

namespace Json

/-- Puts a member in its place by key; a member with the same key is replaced. -/
def put (key : String) (value : Json) : List (String × Json) → List (String × Json)
  | [] => [(key, value)]
  | (k, v) :: rest =>
    if key < k then (key, value) :: (k, v) :: rest
    else if key = k then (key, value) :: rest
    else (k, v) :: put key value rest

/-- The object with the given members, where a later one replaces an earlier one of its key. -/
def object (members : List (String × Json)) : Json :=
  .obj (members.foldl (fun ms m => put m.1 m.2 ms) [])

def get? (key : String) : Json → Option Json
  | obj members => (members.find? fun m => m.1 == key).map Prod.snd
  | _ => none

def nat (n : Nat) : Json := .int n

def kindName : Json → String
  | null => "null"
  | bool _ => "a boolean"
  | int _ => "a number"
  | double _ => "a number"
  | str _ => "a string"
  | arr _ => "an array"
  | obj _ => "an object"

theorem put_nil (key : String) (value : Json) : put key value [] = [(key, value)] := rfl

theorem put_before {key k : String} {value v : Json} {rest : List (String × Json)}
    (h : key < k) : put key value ((k, v) :: rest) = (key, value) :: (k, v) :: rest := by
  simp [put, h]

theorem put_after {key k : String} {value v : Json} {rest : List (String × Json)}
    (h : k < key) : put key value ((k, v) :: rest) = (k, v) :: put key value rest := by
  have h₁ : ¬ key < k := fun h' => String.lt_asymm h h'
  have h₂ : key ≠ k := fun e => String.lt_irrefl k (e ▸ h)
  simp [put, h₁, h₂]

theorem put_same (key : String) (value v : Json) (rest : List (String × Json)) :
    put key value ((key, v) :: rest) = (key, value) :: rest := by
  rw [put, if_neg (String.lt_irrefl key), if_pos rfl]

/-- Of two keys one is first, unless they are the same. -/
theorem key_cases (a b : String) : a < b ∨ a = b ∨ b < a := by
  by_cases hab : a < b
  · exact .inl hab
  · by_cases hba : b < a
    · exact .inr (.inr hba)
    · exact .inr (.inl (String.le_antisymm (String.not_lt.mp hba) (String.not_lt.mp hab)))

/-- Members of different keys may be put in either order. -/
theorem put_comm {k₁ k₂ : String} (h : k₁ ≠ k₂) (v₁ v₂ : Json) (ms : List (String × Json)) :
    put k₁ v₁ (put k₂ v₂ ms) = put k₂ v₂ (put k₁ v₁ ms) := by
  induction ms with
  | nil =>
    rcases key_cases k₁ k₂ with hlt | heq | hgt
    · simp only [put_nil, put_before hlt, put_after hlt]
    · exact absurd heq h
    · simp only [put_nil, put_before hgt, put_after hgt]
  | cons m ms ih =>
    obtain ⟨k, v⟩ := m
    rcases key_cases k₁ k with h₁ | rfl | h₁
    · rcases key_cases k₂ k with h₂ | rfl | h₂
      · rcases key_cases k₁ k₂ with hlt | heq | hgt
        · simp only [put_before h₁, put_before h₂, put_before hlt, put_after hlt]
        · exact absurd heq h
        · simp only [put_before h₁, put_before h₂, put_before hgt, put_after hgt]
      · simp only [put_same, put_before h₁, put_after h₁]
      · simp only [put_before h₁, put_after h₂, put_after (String.lt_trans h₁ h₂)]
    · rcases key_cases k₂ k₁ with h₂ | heq | h₂
      · simp only [put_same, put_before h₂, put_after h₂]
      · exact absurd heq.symm h
      · simp only [put_same, put_after h₂]
    · rcases key_cases k₂ k with h₂ | rfl | h₂
      · simp only [put_before h₂, put_after h₁, put_after (String.lt_trans h₂ h₁)]
      · simp only [put_same, put_after h₁]
      · simp only [put_after h₁, put_after h₂, ih]

end Json

end TxDispatch
