import TxDispatch.Proofs.RecordEdits

namespace TxDispatch.Json

open TxDispatch.Json.Tree (member? field)

inductive Step where
  | member (name : String)
  | item (index : Nat)

/-- Which members are left out: that of a name in the object to which the steps lead. -/
def Cut := List Step → String → Bool

namespace Cut

def nothing : Cut := fun _ _ => false

def under (cut : Cut) (x : Step) : Cut := fun way => cut (x :: way)

def drops (cut : Cut) (name : String) : Bool := cut [] name

def keep {α : Type} (cut : Cut) (name : String) (value default : α) : α :=
  if cut.drops name then default else value

/-- The cut leaves out a member of an object that is itself still there. -/
def severs : Cut → List Step → String → Bool
  | cut, [], name => cut.drops name
  | cut, .member outer :: way, name =>
    !cut.drops outer && severs (cut.under (.member outer)) way name
  | cut, .item i :: way, name => severs (cut.under (.item i)) way name

end Cut

def isPlain : Json → Bool
  | arr _ => false
  | obj _ => false
  | _ => true

mutual

/-- The trees that say what a value does, but for the members that are left out. The others stand in
any order, together with members of other names. -/
inductive Sketch : Cut → Json → Tree → Prop where
  | plain {cut : Cut} {v : Json} (h : v.isPlain = true) : Sketch cut v v.tree
  | arr {cut : Cut} {items : List Json} {trees : List Tree} (each : SketchItems cut 0 items trees) :
    Sketch cut (.arr items) (.arr trees)
  | obj {cut : Cut} {ms : List (String × Json)} {kept ns : List (Option String × Tree)}
    (other : List (Option String × Tree)) (each : SketchMembers cut ms kept)
    (unknown : ∀ n ∈ other, ∃ name, n.1 = some name ∧ name ∉ ms.map Prod.fst)
    (order : ns.Perm (kept ++ other)) : Sketch cut (.obj ms) (.obj ns)

inductive SketchItems : Cut → Nat → List Json → List Tree → Prop where
  | nil {cut : Cut} {i : Nat} : SketchItems cut i [] []
  | cons {cut : Cut} {i : Nat} {v : Json} {t : Tree} {items : List Json} {trees : List Tree}
    (first : Sketch (cut.under (.item i)) v t) (rest : SketchItems cut (i + 1) items trees) :
    SketchItems cut i (v :: items) (t :: trees)

inductive SketchMembers : Cut → List (String × Json) → List (Option String × Tree) → Prop where
  | nil {cut : Cut} : SketchMembers cut [] []
  | dropped {cut : Cut} {name : String} {v : Json} {ms : List (String × Json)}
    {kept : List (Option String × Tree)} (h : cut.drops name = true)
    (rest : SketchMembers cut ms kept) : SketchMembers cut ((name, v) :: ms) kept
  | kept {cut : Cut} {name : String} {v : Json} {t : Tree} {ms : List (String × Json)}
    {kept : List (Option String × Tree)} (h : cut.drops name = false)
    (first : Sketch (cut.under (.member name)) v t) (rest : SketchMembers cut ms kept) :
    SketchMembers cut ((name, v) :: ms) ((some name, t) :: kept)

end

mutual

/-- The tree of a value leaves nothing out. -/
theorem Sketch.whole : ∀ v : Json, Sketch .nothing v v.tree
  | .null | .bool _ | .int _ | .double _ | .str _ => .plain rfl
  | .arr items => .arr (SketchItems.whole 0 items)
  | .obj ms => .obj [] (SketchMembers.whole ms) (by simp) (by simp)

theorem SketchItems.whole : ∀ (i : Nat) (items : List Json),
    SketchItems .nothing i items (itemTrees items)
  | _, [] => .nil
  | i, v :: items => .cons (Sketch.whole v) (SketchItems.whole (i + 1) items)

theorem SketchMembers.whole : ∀ ms : List (String × Json),
    SketchMembers .nothing ms (memberTrees ms)
  | [] => .nil
  | (_, v) :: ms => .kept rfl (Sketch.whole v) (SketchMembers.whole ms)

end

/-- What stands under the name of a member: nothing if it is left out, else a tree of its value. -/
inductive Found (cut : Cut) (name : String) (v : Json) : Option Tree → Prop where
  | dropped (h : cut.drops name = true) : Found cut name v none
  | kept {t : Tree} (h : cut.drops name = false) (tree : Sketch (cut.under (.member name)) v t) :
    Found cut name v (some t)

variable {cut : Cut} {name : String} {v : Json} {t : Tree} {ms : List (String × Json)}
  {kept : List (Option String × Tree)}

theorem SketchMembers.names (h : SketchMembers cut ms kept) :
    ∀ n ∈ kept, ∃ name, n.1 = some name ∧ name ∈ ms.map Prod.fst := by
  induction ms generalizing kept with
  | nil =>
    cases h
    simp
  | cons m ms ih =>
    cases h with
    | dropped _ rest =>
      intro n hn
      obtain ⟨name, hname, hmem⟩ := ih rest n hn
      exact ⟨name, hname, List.mem_cons_of_mem _ hmem⟩
    | kept _ _ rest =>
      intro n hn
      rcases List.mem_cons.mp hn with rfl | hn
      · exact ⟨_, rfl, List.mem_cons_self⟩
      · obtain ⟨name, hname, hmem⟩ := ih rest n hn
        exact ⟨name, hname, List.mem_cons_of_mem _ hmem⟩

theorem SketchMembers.absent (h : SketchMembers cut ms kept) (unknown : name ∉ ms.map Prod.fst) :
    some name ∉ kept.map Prod.fst := by
  intro hmem
  obtain ⟨n, hn, hname⟩ := List.mem_map.mp hmem
  obtain ⟨other, hother, hknown⟩ := h.names n hn
  exact unknown (Option.some.inj (hname.symm.trans hother) ▸ hknown)

theorem SketchMembers.found (h : SketchMembers cut ms kept) (distinct : (ms.map Prod.fst).Nodup) :
    ∀ m ∈ ms, ∃ f, member? m.1 kept = some f ∧ Found cut m.1 m.2 f := by
  induction ms generalizing kept with
  | nil => simp
  | cons m ms ih =>
    obtain ⟨hnew, hrest⟩ := List.nodup_cons.mp distinct
    cases h with
    | dropped hdrops rest =>
      intro n hn
      rcases List.mem_cons.mp hn with rfl | hn
      · exact ⟨none, Tree.member?_absent (rest.absent hnew), .dropped hdrops⟩
      · exact ih rest hrest n hn
    | kept hkept first rest =>
      intro n hn
      rcases List.mem_cons.mp hn with rfl | hn
      · exact ⟨_, Tree.member?_cons_self (rest.absent hnew), .kept hkept first⟩
      · obtain ⟨f, hf, hfound⟩ := ih rest hrest n hn
        refine ⟨f, ?_, hfound⟩
        rw [Tree.member?_cons_ne, hf]
        intro same
        exact hnew (List.mem_map.mpr ⟨n, hn, (Option.some.inj same).symm⟩)

/-- Members of other names do not change what stands under a name. -/
theorem member?_append_other {other : List (Option String × Tree)}
    (absent : some name ∉ other.map Prod.fst) :
    member? name (kept ++ other) = member? name kept := by
  rw [member?, member?, List.filter_append, Tree.filter_absent absent, List.append_nil]

/-- A sketch of an object is read field by field. -/
theorem Sketch.fields? (h : Sketch cut (.obj ms) t) (names : List String)
    (distinct : (ms.map Prod.fst).Nodup) (known : names ⊆ ms.map Prod.fst) :
    ∃ f : String → Option Tree, t.fields? false names = some (names.map f) ∧
      ∀ name v, (name, v) ∈ ms → Found cut name v (f name) := by
  cases h with
  | plain h => simp [isPlain] at h
  | @obj _ _ kept ns other each unknown order =>
    have hmember : ∀ m ∈ ms, ∃ f, member? m.1 ns = some f ∧ Found cut m.1 m.2 f := by
      intro m hm
      have hother : some m.1 ∉ other.map Prod.fst := by
        intro hmem
        obtain ⟨n, hn, hname⟩ := List.mem_map.mp hmem
        obtain ⟨name, hname', hnew⟩ := unknown n hn
        exact hnew (Option.some.inj (hname.symm.trans hname') ▸ List.mem_map_of_mem hm)
      rw [Tree.member?_perm order, member?_append_other hother]
      exact each.found distinct m hm
    have hwhole : ns.all (fun n => n.1.isSome) = true := by
      rw [List.all_eq_true]
      intro n hn
      rcases List.mem_append.mp (order.mem_iff.mp hn) with hn | hn
      · obtain ⟨name, hname, _⟩ := each.names n hn
        simp [hname]
      · obtain ⟨name, hname, _⟩ := unknown n hn
        simp [hname]
    refine ⟨field ns, ?_, ?_⟩
    · rw [Tree.fields?_eq, if_pos]
      rw [Tree.sound, hwhole, Bool.true_and, List.all_eq_true]
      intro name hname
      obtain ⟨m, hm, rfl⟩ := List.mem_map.mp (known hname)
      obtain ⟨f, hf, _⟩ := hmember m hm
      simp [hf]
    · intro name v hm
      obtain ⟨f, hf, hfound⟩ := hmember (name, v) hm
      rw [field, hf]
      exact hfound

section

variable {α : Type} {decode : Tree → Option α} {f : Option Tree} {torn : Bool} {x : α}

/-- A field with a default is read as the default if it is left out, and then cannot be torn. -/
theorem Found.defaulted?_torn (h : Found cut name v f)
    (reads : ∀ t, Sketch (cut.under (.member name)) v t → decode t = if torn then none else some x)
    (default : α) : Tree.defaulted? decode default f =
      if !cut.drops name && torn then none else some (cut.keep name x default) := by
  cases h with
  | dropped h => simp [Tree.defaulted?, Cut.keep, h]
  | kept h tree => simp [Tree.defaulted?, Cut.keep, h, reads _ tree]

theorem Found.defaulted? (h : Found cut name v f)
    (reads : ∀ t, Sketch (cut.under (.member name)) v t → decode t = some x) (default : α) :
    Tree.defaulted? decode default f = some (cut.keep name x default) := by
  have hwhole : ∀ t, Sketch (cut.under (.member name)) v t →
    decode t = if false then none else some x := reads
  rw [h.defaulted?_torn hwhole]
  simp

/-- A field without a default is not read if it is left out. -/
theorem Found.required? (h : Found cut name v f)
    (reads : ∀ t, Sketch (cut.under (.member name)) v t → decode t = some x) :
    Tree.required? decode f = if cut.drops name then none else some x := by
  cases h with
  | dropped h => simp [Tree.required?, h]
  | kept h tree => simp [Tree.required?, h, reads _ tree]

end

theorem Sketch.tree_eq (h : Sketch cut v t) (plain : v.isPlain = true) : t = v.tree := by
  cases h with
  | plain => rfl
  | arr | obj => simp [isPlain] at plain

theorem Sketch.string? {s : String} (h : Sketch cut (.str s) t) : t.string? = some s := by
  rw [h.tree_eq rfl]
  rfl

theorem Sketch.bool? {b : Bool} (h : Sketch cut (.bool b) t) : t.bool? = some b := by
  rw [h.tree_eq rfl]
  rfl

theorem Sketch.word32? {w : UInt32} (h : Sketch cut (.nat w.toNat) t) : t.word32? = some w := by
  rw [h.tree_eq rfl]
  exact decodes_nat32 w

theorem decodes_word64 (w : UInt64) : Decodes Tree.word64? w (.nat w.toNat) := by
  have hword : Text.Digits.toWord64? w.toNat = some w := Text.Digits.toWord64?_eq_some_iff.mpr rfl
  simp [Decodes, nat, tree, Tree.word64?, Literal.unsigned?, Literal.ofInt, Literal.isWhole,
    Text.Digits.value_ofNat, hword]

theorem Sketch.word64? {w : UInt64} (h : Sketch cut (.nat w.toNat) t) : t.word64? = some w := by
  rw [h.tree_eq rfl]
  exact decodes_word64 w

section

variable {α : Type} {decode : Tree → Option α} {write : α → Json} {torn : Nat → Bool}

theorem SketchItems.mapM {i : Nat} {xs : List α} {trees : List Tree}
    (h : SketchItems cut i (xs.map write) trees)
    (reads : ∀ i x t, Sketch (cut.under (.item i)) (write x) t →
      decode t = if torn i then none else some x) :
    trees.mapM decode = if (List.range' i xs.length).any torn then none else some xs := by
  induction xs generalizing i trees with
  | nil =>
    cases h
    rfl
  | cons x xs ih =>
    cases h with
    | cons first rest =>
      rw [List.mapM_cons, reads i x _ first, ih rest, List.length_cons, List.range'_succ,
        List.any_cons]
      cases torn i with
      | true => simp
      | false => cases (List.range' (i + 1) xs.length).any torn <;> simp

/-- A list is read unless one of its items is torn. -/
theorem Sketch.list? {xs : List α} (h : Sketch cut (.arr (xs.map write)) t)
    (reads : ∀ i x t, Sketch (cut.under (.item i)) (write x) t →
      decode t = if torn i then none else some x) :
    t.list? decode = if (List.range xs.length).any torn then none else some xs := by
  cases h with
  | plain h => simp [isPlain] at h
  | arr each => rw [Tree.list?, each.mapM reads, List.range_eq_range']

theorem Sketch.list?_whole {xs : List α} (h : Sketch cut (.arr (xs.map write)) t)
    (reads : ∀ i x t, Sketch (cut.under (.item i)) (write x) t → decode t = some x) :
    t.list? decode = some xs := by
  have hwhole : ∀ i x t, Sketch (cut.under (.item i)) (write x) t →
    decode t = if false then none else some x := reads
  rw [h.list? hwhole]
  simp

/-- An absent value is written as null, which stands for no other. -/
theorem Sketch.orNull? {x : Option α} (h : Sketch cut ((x.map write).getD .null) t)
    (reads : ∀ x t, Sketch cut (write x) t → decode t = some x ∧ t ≠ .null) :
    t.orNull? decode = some x := by
  cases x with
  | none =>
    rw [h.tree_eq rfl]
    rfl
  | some x =>
    obtain ⟨hread, hsome⟩ := reads x t h
    rw [Tree.orNull?, hread]
    · rfl
    · exact hsome

end

end TxDispatch.Json
