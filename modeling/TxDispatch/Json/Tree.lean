import TxDispatch.Json.Literal

namespace TxDispatch.Json

/-- The syntax tree of a JSON text. A string is absent if it names half a surrogate pair. -/
inductive Tree where
  | null
  | bool (b : Bool)
  | num (n : Literal)
  | str (s : Option String)
  | arr (items : List Tree)
  | obj (members : List (Option String × Tree))
deriving Inhabited

/-- Arrays and objects may be nested this deep in a value that is kept. -/
def depthLimit : Nat := 127

namespace Tree

mutual

/-- The value of a tree, if its strings are whole, its numbers in range and its depth within the
limit. -/
def toJson? : (depth : Nat) → Tree → Option Json
  | _, null => some .null
  | _, bool b => some (.bool b)
  | _, num n => n.toJson?
  | _, str s => s.map .str
  | 0, arr _ => none
  | depth + 1, arr items => (itemsToJson? depth items).map .arr
  | 0, obj _ => none
  | depth + 1, obj members => (membersToJson? depth members).map Json.object

def itemsToJson? : (depth : Nat) → List Tree → Option (List Json)
  | _, [] => some []
  | depth, x :: xs => do
    let v ← toJson? depth x
    let vs ← itemsToJson? depth xs
    return v :: vs

def membersToJson? : (depth : Nat) → List (Option String × Tree) → Option (List (String × Json))
  | _, [] => some []
  | depth, (k, x) :: rest => do
    let k ← k
    let v ← toJson? depth x
    let ms ← membersToJson? depth rest
    return (k, v) :: ms

end

def string? : Tree → Option String
  | str s => s
  | _ => none

def bool? : Tree → Option Bool
  | bool b => some b
  | _ => none

def word32? : Tree → Option UInt32
  | num n => do Text.Digits.toWord32? (← n.unsigned?)
  | _ => none

def word64? : Tree → Option UInt64
  | num n => do Text.Digits.toWord64? (← n.unsigned?)
  | _ => none

/-- Gateways write a 64 bit number as a number or as its decimal text, where no text is zero. -/
def loose64? : Tree → Option UInt64
  | num n => do Text.Digits.toWord64? (← n.unsigned?)
  | str (some s) =>
    if s.isEmpty then some 0 else do Text.Digits.toWord64? (← Text.Digits.readSigned? s.toList)
  | _ => none

def list? {α : Type} (item : Tree → Option α) : Tree → Option (List α)
  | arr items => items.mapM item
  | _ => none

/-- What may stand in the place of an absent value. -/
def orNull? {α : Type} (item : Tree → Option α) : Tree → Option (Option α)
  | null => some none
  | t => (item t).map some

/-- The member under a name, if it stands there only once; the inner option is absence. -/
def member? (name : String) (members : List (Option String × Tree)) : Option (Option Tree) :=
  match members.filter fun m => m.1 == some name with
  | [] => some none
  | [m] => some (some m.2)
  | _ => none

theorem filter_absent {name : String} {ms : List (Option String × Tree)}
    (absent : some name ∉ ms.map Prod.fst) : ms.filter (fun m => m.1 == some name) = [] := by
  rw [List.filter_eq_nil_iff]
  intro m hm same
  exact absent (List.mem_map.mpr ⟨m, hm, beq_iff_eq.mp same⟩)

theorem member?_absent {name : String} {ms : List (Option String × Tree)}
    (absent : some name ∉ ms.map Prod.fst) : member? name ms = some none := by
  rw [member?, filter_absent absent]

theorem member?_cons_ne {name : String} {k : Option String} {x : Tree}
    {ms : List (Option String × Tree)} (h : k ≠ some name) :
    member? name ((k, x) :: ms) = member? name ms := by
  simp [member?, h]

theorem member?_cons_self {name : String} {x : Tree} {ms : List (Option String × Tree)}
    (absent : some name ∉ ms.map Prod.fst) :
    member? name ((some name, x) :: ms) = some (some x) := by
  simp [member?, filter_absent absent]

/-- What stands second under a name makes the name unclear. -/
theorem member?_cons_present {name : String} {x : Tree} {ms : List (Option String × Tree)}
    (present : some name ∈ ms.map Prod.fst) : member? name ((some name, x) :: ms) = none := by
  obtain ⟨m, hm, hname⟩ := List.mem_map.mp present
  have hfound : m ∈ ms.filter fun m => m.1 == some name := by simp [hm, hname]
  cases hrest : ms.filter fun m => m.1 == some name with
  | nil =>
    rw [hrest] at hfound
    cases hfound
  | cons n ns => simp [member?, hrest]

/-- The fields of a record, in the order of their names. A record is written as an object, where
unknown members are skipped, or as a list of its fields, which may end early and, if `surplus` is
allowed, run on. -/
def fields? (surplus : Bool) (names : List String) : Tree → Option (List (Option Tree))
  | obj members =>
    if members.all fun m => m.1.isSome then names.mapM fun name => member? name members else none
  | arr items =>
    if surplus || items.length ≤ names.length then
      some ((List.range names.length).map fun i => items[i]?)
    else none
  | _ => none

def required? {α : Type} (decode : Tree → Option α) (field : Option Tree) : Option α :=
  field.bind decode

def defaulted? {α : Type} (decode : Tree → Option α) (value : α) : Option Tree → Option α
  | none => some value
  | some t => decode t

end Tree

end TxDispatch.Json
