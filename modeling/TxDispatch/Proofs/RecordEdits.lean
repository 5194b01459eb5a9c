import Mathlib.Logic.Relation
import TxDispatch.Proofs.RawLogs

namespace TxDispatch.Json.Tree

def field (ms : List (Option String × Tree)) (name : String) : Option Tree :=
  (member? name ms).getD none

def sound (names : List String) (ms : List (Option String × Tree)) : Bool :=
  (ms.all fun m => m.1.isSome) && names.all fun name => (member? name ms).isSome

theorem field_cons_ne {name other : String} {x : Tree} {ms : List (Option String × Tree)}
    (h : name ≠ other) : field ((some name, x) :: ms) other = field ms other := by
  rw [field, field, member?_cons_ne fun same => h (Option.some.inj same)]

theorem field_absent {name : String} {ms : List (Option String × Tree)}
    (absent : some name ∉ ms.map Prod.fst) : field ms name = none := by
  rw [field, member?_absent absent]
  rfl

theorem field_cons_self {name : String} {x : Tree} {ms : List (Option String × Tree)}
    (absent : some name ∉ ms.map Prod.fst) : field ((some name, x) :: ms) name = some x := by
  rw [field, member?_cons_self absent]
  rfl

theorem sound_cons {names : List String} {name : String} {x : Tree}
    {ms : List (Option String × Tree)} (absent : some name ∉ ms.map Prod.fst) :
    sound names ((some name, x) :: ms) = sound names ms := by
  have hnames : ∀ other, (member? other ((some name, x) :: ms)).isSome =
      (member? other ms).isSome := by
    intro other
    by_cases hne : some name = some other
    · cases hne
      rw [member?_cons_self absent, member?_absent absent]
      rfl
    · rw [member?_cons_ne hne]
  simp [sound, hnames]

theorem mapM_member? (names : List String) (ms : List (Option String × Tree)) :
    names.mapM (fun name => member? name ms) =
      if names.all fun name => (member? name ms).isSome then some (names.map (field ms))
      else none := by
  induction names with
  | nil => rfl
  | cons name names ih =>
    rw [List.mapM_cons, ih]
    cases h : member? name ms with
    | none => simp [h]
    | some found =>
      cases hall : names.all fun name => (member? name ms).isSome <;> simp [h, hall, field]

theorem fields?_eq (names : List String) (ms : List (Option String × Tree)) :
    fields? false names (.obj ms) =
      if sound names ms then some (names.map (field ms)) else none := by
  rw [fields?, mapM_member?, sound]
  cases ms.all fun m => m.1.isSome <;> simp

section

variable (names : List String) (Default : String → Tree → Prop)
  (Respelled : String → Tree → Tree → Prop)

/-- One edit of an object with fields of the given names. The first relation says what is the
default of a field, the second in which ways a field may be written instead. -/
inductive Edit : Tree → Tree → Prop where
  | reordered {ms ns : List (Option String × Tree)} (order : ms.Perm ns) :
    Edit (.obj ms) (.obj ns)
  | extended {ms : List (Option String × Tree)} {name : String} {x : Tree}
    (unknown : name ∉ names) : Edit (.obj ms) (.obj ((some name, x) :: ms))
  | omitted {ms : List (Option String × Tree)} {name : String} {x : Tree}
    (once : some name ∉ ms.map Prod.fst) (h : Default name x) :
    Edit (.obj ((some name, x) :: ms)) (.obj ms)
  | rewritten {ms : List (Option String × Tree)} {name : String} {x y : Tree}
    (h : Respelled name x y) : Edit (.obj ((some name, x) :: ms)) (.obj ((some name, y) :: ms))

inductive Alike (name : String) : Option Tree → Option Tree → Prop where
  | same (f : Option Tree) : Alike name f f
  | omitted {x : Tree} (h : Default name x) : Alike name (some x) none
  | rewritten {x y : Tree} (h : Respelled name x y) : Alike name (some x) (some y)

end

variable {names : List String} {Default : String → Tree → Prop}
  {Respelled : String → Tree → Tree → Prop} {t t' : Tree}

inductive InItem (edit : Tree → Tree → Prop) : Tree → Tree → Prop where
  | item {before after : List Tree} {x y : Tree} (h : edit x y) :
    InItem edit (.arr (before ++ x :: after)) (.arr (before ++ y :: after))

/-- An edit changes no field but one, and leaves each name as clear as it was. -/
theorem Edit.alike (h : Edit names Default Respelled t t') :
    ∃ ms ms', t = .obj ms ∧ t' = .obj ms' ∧ sound names ms = sound names ms' ∧
      ∀ name ∈ names, Alike Default Respelled name (field ms name) (field ms' name) := by
  suffices hsuff : ∃ ms ms', t = .obj ms ∧ t' = .obj ms' ∧
      (ms.all fun m => m.1.isSome) = (ms'.all fun m => m.1.isSome) ∧
      ∀ name ∈ names, (member? name ms).isSome = (member? name ms').isSome ∧
        Alike Default Respelled name (field ms name) (field ms' name) by
    obtain ⟨ms, ms', ht, ht', hwhole, hnames⟩ := hsuff
    refine ⟨ms, ms', ht, ht', ?_, fun name hname => (hnames name hname).2⟩
    rw [sound, sound, hwhole]
    congr 1
    rw [Bool.eq_iff_iff, List.all_eq_true, List.all_eq_true]
    exact forall₂_congr fun name hname => by rw [(hnames name hname).1]
  cases h with
  | @reordered ms ns order =>
    refine ⟨ms, ns, rfl, rfl, order.all_eq, ?_⟩
    intro name _
    rw [field, field, member?_perm order]
    exact ⟨rfl, .same _⟩
  | @extended ms name x unknown =>
    refine ⟨ms, _, rfl, rfl, by simp, ?_⟩
    intro other hother
    have hne : some name ≠ some other := by
      intro same
      exact unknown (Option.some.inj same ▸ hother)
    rw [field, field, member?_cons_ne hne]
    exact ⟨rfl, .same _⟩
  | @omitted ms name x once h =>
    refine ⟨_, ms, rfl, rfl, by simp, ?_⟩
    intro other _
    by_cases hne : some name = some other
    · cases hne
      rw [field, field, member?_cons_self once, member?_absent once]
      exact ⟨rfl, .omitted h⟩
    · rw [field, field, member?_cons_ne hne]
      exact ⟨rfl, .same _⟩
  | @rewritten ms name x y h =>
    refine ⟨_, _, rfl, rfl, by simp, ?_⟩
    intro other _
    by_cases hne : some name = some other
    · cases hne
      by_cases present : some name ∈ ms.map Prod.fst
      · rw [field, field, member?_cons_present present, member?_cons_present present]
        exact ⟨rfl, .same _⟩
      · rw [field, field, member?_cons_self present, member?_cons_self present]
        exact ⟨rfl, .rewritten h⟩
    · rw [field, field, member?_cons_ne hne, member?_cons_ne hne]
      exact ⟨rfl, .same _⟩

section

variable {α : Type} (decode : Tree → Option α) {name : String} {f f' : Option Tree}

/-- A field with a default is decoded alike, if its default is and if other ways to write it are. -/
theorem Alike.defaulted? (value : α) (h : Alike Default Respelled name f f')
    (default : ∀ x, Default name x → decode x = some value)
    (respelled : ∀ x y, Respelled name x y → decode x = decode y) :
    Tree.defaulted? decode value f = Tree.defaulted? decode value f' := by
  cases h with
  | same => rfl
  | omitted h => exact default _ h
  | rewritten h => exact respelled _ _ h

theorem Alike.required? (h : Alike Default Respelled name f f') (default : ∀ x, ¬ Default name x)
    (respelled : ∀ x y, Respelled name x y → decode x = decode y) :
    Tree.required? decode f = Tree.required? decode f' := by
  cases h with
  | same => rfl
  | omitted h => exact absurd h (default _)
  | rewritten h => exact respelled _ _ h

theorem InItem.list? {edit : Tree → Tree → Prop} (h : InItem edit t t')
    (each : ∀ x y, edit x y → decode x = decode y) : Tree.list? decode t = Tree.list? decode t' := by
  cases h with
  | item h => simp only [Tree.list?, List.mapM_append, List.mapM_cons, each _ _ h]

end

end TxDispatch.Json.Tree
