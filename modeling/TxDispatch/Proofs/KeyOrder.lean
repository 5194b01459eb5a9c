import TxDispatch.Envelope
import TxDispatch.Proofs.ReadBack

namespace TxDispatch

open Text

namespace Json

/-- The members of every object, at any depth, are in the order of their keys, each key once. -/
inductive Ordered : Json → Prop where
  | null : Ordered .null
  | bool (b : Bool) : Ordered (.bool b)
  | int (n : Int) : Ordered (.int n)
  | double (x : Double) : Ordered (.double x)
  | str (s : String) : Ordered (.str s)
  | arr {xs : List Json} (items : ∀ x ∈ xs, Ordered x) : Ordered (.arr xs)
  | obj {ms : List (String × Json)} (keys : (ms.map Prod.fst).Pairwise (· < ·))
    (members : ∀ m ∈ ms, Ordered m.2) : Ordered (.obj ms)

theorem mem_put {key : String} {value : Json} {m : String × Json} {ms : List (String × Json)}
    (h : m ∈ put key value ms) : m = (key, value) ∨ m ∈ ms := by
  induction ms with
  | nil => exact .inl (List.mem_singleton.mp h)
  | cons n ms ih =>
    obtain ⟨k, v⟩ := n
    rcases key_cases key k with hlt | rfl | hgt
    · rw [put_before hlt] at h
      exact List.mem_cons.mp h
    · rw [put_same] at h
      rcases List.mem_cons.mp h with rfl | hmem
      · exact .inl rfl
      · exact .inr (List.mem_cons_of_mem _ hmem)
    · rw [put_after hgt] at h
      rcases List.mem_cons.mp h with rfl | hmem
      · exact .inr List.mem_cons_self
      · exact (ih hmem).imp_right (List.mem_cons_of_mem _)

theorem put_pairwise {key : String} {value : Json} {ms : List (String × Json)}
    (h : ms.Pairwise fun m n => m.1 < n.1) :
    (put key value ms).Pairwise fun m n => m.1 < n.1 := by
  induction h with
  | nil => exact List.pairwise_singleton _ _
  | @cons n ms hn hms ih =>
    obtain ⟨k, v⟩ := n
    rcases key_cases key k with hlt | rfl | hgt
    · rw [put_before hlt]
      refine .cons ?_ (.cons hn hms)
      intro m hm
      rcases List.mem_cons.mp hm with rfl | hm
      · exact hlt
      · exact String.lt_trans hlt (hn m hm)
    · rw [put_same]
      exact .cons hn hms
    · rw [put_after hgt]
      refine .cons ?_ ih
      intro m hm
      rcases mem_put hm with rfl | hm
      · exact hgt
      · exact hn m hm

/-- An object that is made of ordered values is ordered, in whatever order they come. -/
theorem object_ordered {ms : List (String × Json)} (h : ∀ m ∈ ms, m.2.Ordered) :
    (object ms).Ordered := by
  suffices hfold : ∀ acc : List (String × Json), (acc.Pairwise fun m n => m.1 < n.1) →
      (∀ m ∈ acc, m.2.Ordered) → (obj (ms.foldl (fun ms m => put m.1 m.2 ms) acc)).Ordered by
    apply hfold []
    · exact .nil
    · intro m hm
      cases hm
  intro acc hkeys hacc
  induction ms generalizing acc with
  | nil => exact .obj (List.pairwise_map.mpr hkeys) hacc
  | cons m ms ih =>
    rw [List.foldl_cons]
    refine ih (fun n hn => h n (List.mem_cons_of_mem _ hn)) _ (put_pairwise hkeys) ?_
    intro n hn
    rcases mem_put hn with rfl | hn
    · exact h m List.mem_cons_self
    · exact hacc n hn

theorem Literal.toJson?_ordered {n : Literal} {v : Json} (h : n.toJson? = some v) : v.Ordered := by
  simp only [Literal.toJson?] at h
  split at h
  · cases h
    exact .int _
  · split at h
    · cases h
      exact .int _
    · obtain ⟨x, _, rfl⟩ := Option.map_eq_some_iff.mp h
      exact .double x

mutual

theorem Tree.toJson?_ordered : ∀ (t : Tree) {depth : Nat} {v : Json}, t.toJson? depth = some v →
    v.Ordered
  | .null, _, _, h => by
    rw [Tree.toJson?] at h
    cases h
    exact .null
  | .bool b, _, _, h => by
    rw [Tree.toJson?] at h
    cases h
    exact .bool b
  | .num n, _, _, h => by
    rw [Tree.toJson?] at h
    exact Literal.toJson?_ordered h
  | .str s, _, _, h => by
    rw [Tree.toJson?] at h
    obtain ⟨s, _, rfl⟩ := Option.map_eq_some_iff.mp h
    exact .str s
  | .arr xs, depth, _, h => by
    cases depth with
    | zero => cases h
    | succ depth =>
      rw [Tree.toJson?] at h
      obtain ⟨vs, hvs, rfl⟩ := Option.map_eq_some_iff.mp h
      exact .arr (Tree.itemsToJson?_ordered xs hvs)
  | .obj ms, depth, _, h => by
    cases depth with
    | zero => cases h
    | succ depth =>
      rw [Tree.toJson?] at h
      obtain ⟨ns, hns, rfl⟩ := Option.map_eq_some_iff.mp h
      exact object_ordered (Tree.membersToJson?_ordered ms hns)

theorem Tree.itemsToJson?_ordered : ∀ (xs : List Tree) {depth : Nat} {vs : List Json},
    Tree.itemsToJson? depth xs = some vs → ∀ v ∈ vs, v.Ordered
  | [], _, _, h => by
    rw [Tree.itemsToJson?] at h
    cases h
    intro v hv
    cases hv
  | x :: xs, depth, vs, h => by
    simp only [Tree.itemsToJson?, Option.bind_eq_bind, Option.bind_eq_some_iff, Option.pure_def,
      Option.some.injEq] at h
    obtain ⟨v, hv, vs, hvs, rfl⟩ := h
    intro w hw
    rcases List.mem_cons.mp hw with rfl | hw
    · exact Tree.toJson?_ordered x hv
    · exact Tree.itemsToJson?_ordered xs hvs w hw

theorem Tree.membersToJson?_ordered : ∀ (ms : List (Option String × Tree)) {depth : Nat}
    {ns : List (String × Json)}, Tree.membersToJson? depth ms = some ns → ∀ n ∈ ns, n.2.Ordered
  | [], _, _, h => by
    rw [Tree.membersToJson?] at h
    cases h
    intro n hn
    cases hn
  | (k, x) :: ms, depth, ns, h => by
    simp only [Tree.membersToJson?, Option.bind_eq_bind, Option.bind_eq_some_iff, Option.pure_def,
      Option.some.injEq] at h
    obtain ⟨k, _, v, hv, ns, hns, rfl⟩ := h
    intro n hn
    rcases List.mem_cons.mp hn with rfl | hn
    · exact Tree.toJson?_ordered x hv
    · exact Tree.membersToJson?_ordered ms hns n hn

end

theorem ofText?_ordered {s : String} {v : Json} (h : ofText? s = some v) : v.Ordered := by
  obtain ⟨t, _, ht⟩ := Option.bind_eq_some_iff.mp h
  exact Tree.toJson?_ordered t ht

inductive Tree.Within (part : Tree) : Tree → Prop where
  | self : Within part part
  | item {xs : List Tree} {x : Tree} (mem : x ∈ xs) (h : Within part x) : Within part (.arr xs)
  | member {ms : List (Option String × Tree)} {m : Option String × Tree} (mem : m ∈ ms)
    (h : Within part m.2) : Within part (.obj ms)

/-- The names of members are whole, and each is before the next in the order of their bytes. -/
def Tree.NamesIncrease (ms : List (Option String × Tree)) : Prop :=
  ∃ names : List String, ms.map Prod.fst = names.map some ∧
    names.Pairwise fun a b => Utf8.encode a.toList < Utf8.encode b.toList

/-- The names of each object in the text of an ordered value increase. -/
theorem Ordered.namesIncrease {v : Json} (h : v.Ordered) {ms : List (Option String × Tree)}
    (within : Tree.Within (.obj ms) v.tree) : Tree.NamesIncrease ms := by
  induction h with
  | null | bool | int | double | str => cases within
  | arr items ih =>
    rw [tree, itemTrees_eq_map] at within
    cases within with
    | item mem h =>
      obtain ⟨x, hx, rfl⟩ := List.mem_map.mp mem
      exact ih x hx h
  | @obj ns keys members ih =>
    rw [tree, memberTrees_eq_map] at within
    cases within with
    | self =>
      refine ⟨ns.map Prod.fst, by simp, ?_⟩
      exact keys.imp fun h => Utf8.encode_lt (String.lt_iff.mp h)
    | member mem h =>
      obtain ⟨n, hn, rfl⟩ := List.mem_map.mp mem
      exact ih n hn h

end Json

end TxDispatch
