import Mathlib.Logic.Relation
import TxDispatch.EventLog

namespace TxDispatch

/-- An item that has a property which none before it has. -/
def IsFirst {α : Type} (p : α → Prop) (x : α) (xs : List α) : Prop :=
  p x ∧ ∃ before after, xs = before ++ x :: after ∧ ∀ y ∈ before, ¬ p y

theorem find?_eq_some_iff_isFirst {α : Type} {f : α → Bool} {x : α} {xs : List α} :
    xs.find? f = some x ↔ IsFirst (fun y => f y = true) x xs := by
  simp [IsFirst, List.find?_eq_some_iff_append]

namespace Event

theorem attribute?_eq_some_iff {e : Event} {key value : String} :
    e.attribute? key = some value ↔
      ∃ a, IsFirst (fun a => a.key = key) a e.attributes ∧ a.value = value := by
  simp [attribute?, find?_eq_some_iff_isFirst]

theorem attribute?_eq_none_iff {e : Event} {key : String} :
    e.attribute? key = none ↔ ∀ a ∈ e.attributes, a.key ≠ key := by
  simp [attribute?]

theorem attribute?_insert {kind key : String} {as bs : List Attribute} {a : Attribute}
    (other : a.key ≠ key) :
    attribute? ⟨kind, as ++ a :: bs⟩ key = attribute? ⟨kind, as ++ bs⟩ key := by
  simp [attribute?, other]

end Event

namespace EventLog

variable {target : Target}

def HasType (target : Target) (log : EventLog) : Prop := ∃ e ∈ log, e.kind = target.eventType

def Decides (target : Target) (e : Event) (log : EventLog) : Prop :=
  IsFirst (fun e => e.kind = target.eventType) e log

theorem extract?_of_decides {e : Event} {log : EventLog} (h : Decides target e log) :
    log.extract? target = e.attribute? target.attributeKey := by
  have hfound : (log.find? fun e => e.kind == target.eventType) = some e := by
    simpa [find?_eq_some_iff_isFirst, Decides] using h
  rw [extract?, hfound, Option.bind_some]

theorem extract?_of_not_hasType {log : EventLog} (h : ¬ HasType target log) :
    log.extract? target = none := by
  have hnone : (log.find? fun e => e.kind == target.eventType) = none := by
    simpa [HasType] using h
  rw [extract?, hnone, Option.bind_none]

theorem HasType.exists_decides {log : EventLog} (h : HasType target log) :
    ∃ e, Decides target e log := by
  obtain ⟨e, he, hkind⟩ := h
  have hsome : (log.find? fun e => e.kind == target.eventType).isSome = true := by
    rw [List.find?_isSome]
    exact ⟨e, he, by simpa using hkind⟩
  obtain ⟨first, hfirst⟩ := Option.isSome_iff_exists.mp hsome
  exact ⟨first, by simpa [Decides, find?_eq_some_iff_isFirst] using hfirst⟩

theorem Decides.hasType {e : Event} {log : EventLog} (h : Decides target e log) :
    HasType target log := by
  obtain ⟨hkind, before, after, rfl, _⟩ := h
  exact ⟨e, by simp, hkind⟩

theorem Decides.append {e : Event} {xs : EventLog} (h : Decides target e xs) (ys : EventLog) :
    Decides target e (xs ++ ys) := by
  obtain ⟨hkind, before, after, rfl, hbefore⟩ := h
  exact ⟨hkind, before, after ++ ys, by simp, hbefore⟩

theorem Decides.prepend {e : Event} {xs ys : EventLog} (h : Decides target e ys)
    (others : ¬ HasType target xs) : Decides target e (xs ++ ys) := by
  obtain ⟨hkind, before, after, rfl, hbefore⟩ := h
  refine ⟨hkind, xs ++ before, after, by simp, ?_⟩
  intro x hx hx'
  rcases List.mem_append.mp hx with hmem | hmem
  · exact others ⟨x, hmem, hx'⟩
  · exact hbefore x hmem hx'

theorem hasType_append {xs ys : EventLog} :
    HasType target (xs ++ ys) ↔ HasType target xs ∨ HasType target ys := by
  simp [HasType, or_and_right, exists_or]

theorem extract?_append_of_hasType {xs : EventLog} (h : HasType target xs) (ys : EventLog) :
    extract? (xs ++ ys) target = extract? xs target := by
  obtain ⟨e, hdecides⟩ := h.exists_decides
  rw [extract?_of_decides (hdecides.append ys), extract?_of_decides hdecides]

theorem extract?_append_of_not_hasType {xs : EventLog} (h : ¬ HasType target xs) (ys : EventLog) :
    extract? (xs ++ ys) target = extract? ys target := by
  by_cases hys : HasType target ys
  · obtain ⟨e, hdecides⟩ := hys.exists_decides
    rw [extract?_of_decides (hdecides.prepend h), extract?_of_decides hdecides]
  · have hnone : ¬ HasType target (xs ++ ys) := by
      rw [hasType_append]
      exact fun hor => hor.elim h hys
    rw [extract?_of_not_hasType hnone, extract?_of_not_hasType hys]

theorem extract?_eq_some_iff {log : EventLog} {value : String} :
    log.extract? target = some value ↔
      ∃ e a, Decides target e log ∧
        IsFirst (fun a => a.key = target.attributeKey) a e.attributes ∧ a.value = value := by
  constructor
  · intro h
    by_cases htype : HasType target log
    · obtain ⟨e, hdecides⟩ := htype.exists_decides
      rw [extract?_of_decides hdecides] at h
      obtain ⟨a, ha, hvalue⟩ := Event.attribute?_eq_some_iff.mp h
      exact ⟨e, a, hdecides, ha, hvalue⟩
    · rw [extract?_of_not_hasType htype] at h
      cases h
  · intro ⟨e, a, hdecides, ha, hvalue⟩
    rw [extract?_of_decides hdecides]
    exact Event.attribute?_eq_some_iff.mpr ⟨a, ha, hvalue⟩

theorem extract?_eq_none_iff {log : EventLog} :
    log.extract? target = none ↔
      ¬ HasType target log ∨
        ∃ e, Decides target e log ∧ ∀ a ∈ e.attributes, a.key ≠ target.attributeKey := by
  constructor
  · intro h
    by_cases htype : HasType target log
    · obtain ⟨e, hdecides⟩ := htype.exists_decides
      rw [extract?_of_decides hdecides] at h
      exact .inr ⟨e, hdecides, Event.attribute?_eq_none_iff.mp h⟩
    · exact .inl htype
  · intro h
    rcases h with htype | ⟨e, hdecides, hnone⟩
    · exact extract?_of_not_hasType htype
    · rw [extract?_of_decides hdecides]
      exact Event.attribute?_eq_none_iff.mpr hnone

structure Alike (target : Target) (xs ys : EventLog) : Prop where
  hasType : HasType target xs ↔ HasType target ys
  extract : extract? xs target = extract? ys target

theorem Alike.refl (xs : EventLog) : Alike target xs xs := ⟨Iff.rfl, rfl⟩

theorem Alike.symm {xs ys : EventLog} (h : Alike target xs ys) : Alike target ys xs :=
  ⟨h.hasType.symm, h.extract.symm⟩

theorem Alike.trans {xs ys zs : EventLog} (h : Alike target xs ys) (h' : Alike target ys zs) :
    Alike target xs zs :=
  ⟨h.hasType.trans h'.hasType, h.extract.trans h'.extract⟩

/-- What is the same to a look up is so in every place of a log. -/
theorem Alike.append {xs xs' ys ys' : EventLog} (h : Alike target xs xs')
    (h' : Alike target ys ys') : Alike target (xs ++ ys) (xs' ++ ys') := by
  constructor
  · rw [hasType_append, hasType_append, h.hasType, h'.hasType]
  · by_cases htype : HasType target xs
    · rw [extract?_append_of_hasType htype, h.extract,
        extract?_append_of_hasType (h.hasType.mp htype)]
    · rw [extract?_append_of_not_hasType htype, h'.extract,
        extract?_append_of_not_hasType fun hx => htype (h.hasType.mpr hx)]

theorem alike_other {e : Event} (other : e.kind ≠ target.eventType) : Alike target [] [e] := by
  have hnone : ¬ HasType target [e] := by simpa [HasType] using other
  constructor
  · exact iff_of_false (by simp [HasType]) hnone
  · rw [extract?_of_not_hasType hnone]
    rfl

theorem alike_attribute {kind : String} {as bs : List Attribute} {a : Attribute}
    (other : a.key ≠ target.attributeKey) :
    Alike target [⟨kind, as ++ bs⟩] [⟨kind, as ++ a :: bs⟩] := by
  constructor
  · simp [HasType]
  · by_cases hkind : kind = target.eventType <;>
      simp [extract?, hkind, Event.attribute?_insert other]

/-- A change to the logs of a transaction that touches nothing a target asks for. Read backwards,
messages are merged and what was inserted is removed. -/
inductive Edit (target : Target) : List MessageLog → List MessageLog → Prop where
  /-- The events of a message are dealt out to two. -/
  | deal {before after : List MessageLog} {i j k : UInt32} {n m l : String} {es fs : List Event} :
    Edit target (before ++ ⟨i, n, es ++ fs⟩ :: after)
      (before ++ ⟨j, m, es⟩ :: ⟨k, l, fs⟩ :: after)
  /-- A message without events is inserted. -/
  | hollow {before after : List MessageLog} {i : UInt32} {n : String} :
    Edit target (before ++ after) (before ++ ⟨i, n, []⟩ :: after)
  /-- An event of another type is inserted. -/
  | foreign {before after : List MessageLog} {i : UInt32} {n : String} {es fs : List Event}
    {e : Event} (other : e.kind ≠ target.eventType) :
    Edit target (before ++ ⟨i, n, es ++ fs⟩ :: after) (before ++ ⟨i, n, es ++ e :: fs⟩ :: after)
  /-- An attribute with another key is inserted into any event. -/
  | surplus {before after : List MessageLog} {i : UInt32} {n kind : String} {es fs : List Event}
    {as bs : List Attribute} {a : Attribute} (other : a.key ≠ target.attributeKey) :
    Edit target (before ++ ⟨i, n, es ++ ⟨kind, as ++ bs⟩ :: fs⟩ :: after)
      (before ++ ⟨i, n, es ++ ⟨kind, as ++ a :: bs⟩ :: fs⟩ :: after)

theorem ofMessages_insert (before after : List MessageLog) (m : MessageLog) :
    ofMessages (before ++ m :: after) = ofMessages before ++ (m.events ++ ofMessages after) := by
  simp [ofMessages]

theorem Edit.alike {a b : List MessageLog} (h : Edit target a b) :
    Alike target (ofMessages a) (ofMessages b) := by
  cases h with
  | deal => simpa [ofMessages] using Alike.refl _
  | hollow => simpa [ofMessages] using Alike.refl _
  | foreign other =>
    rw [ofMessages_insert, ofMessages_insert, List.append_assoc, List.append_assoc]
    exact (Alike.refl _).append ((Alike.refl _).append ((alike_other other).append (.refl _)))
  | surplus other =>
    rw [ofMessages_insert, ofMessages_insert, List.append_assoc, List.append_assoc]
    exact (Alike.refl _).append ((Alike.refl _).append ((alike_attribute other).append (.refl _)))

/-- No number of changes, made or taken back, is noticed. -/
theorem alike_of_edits {a b : List MessageLog} (h : Relation.EqvGen (Edit target) a b) :
    Alike target (ofMessages a) (ofMessages b) := by
  induction h with
  | rel _ _ h => exact h.alike
  | refl _ => exact .refl _
  | symm _ _ _ ih => exact ih.symm
  | trans _ _ _ _ _ ih ih' => exact ih.trans ih'

end EventLog

namespace Proofs

open EventLog

/-- A look up finds the first attribute under the key in the first event of the type, and nothing if
there is no such event or that event has no such attribute. Of two groups of messages the first that
has an event of the type decides, and changes elsewhere are not noticed. -/
theorem extract_first_match (target : Target) :
    (∀ (log : EventLog) (value : String), log.extract? target = some value ↔
      ∃ e a, Decides target e log ∧
        IsFirst (fun a => a.key = target.attributeKey) a e.attributes ∧ a.value = value) ∧
    (∀ log : EventLog, log.extract? target = none ↔
      ¬ HasType target log ∨
        ∃ e, Decides target e log ∧ ∀ a ∈ e.attributes, a.key ≠ target.attributeKey) ∧
    (∀ a b : List MessageLog,
      (HasType target (ofMessages a) →
        extract? (ofMessages (a ++ b)) target = extract? (ofMessages a) target) ∧
      (¬ HasType target (ofMessages a) →
        extract? (ofMessages (a ++ b)) target = extract? (ofMessages b) target)) ∧
    ∀ a b : List MessageLog, Relation.EqvGen (Edit target) a b →
      extract? (ofMessages a) target = extract? (ofMessages b) target := by
  refine ⟨fun _ _ => extract?_eq_some_iff, fun _ => extract?_eq_none_iff, ?_, ?_⟩
  · intro a b
    rw [ofMessages_append]
    exact ⟨fun h => extract?_append_of_hasType h _, fun h => extract?_append_of_not_hasType h _⟩
  · intro a b h
    exact (alike_of_edits h).extract

/-- Two messages create contracts, the first without telling an address. They are merged, and an
event of another type and an attribute with another key come in; still there is no address. -/
theorem extract_first_match_merged :
    let silent : Event := ⟨"instantiate_contract", [⟨"code_id", "5"⟩]⟩
    let signed : Event := ⟨"instantiate_contract", [⟨"creator", "x"⟩, ⟨"code_id", "5"⟩]⟩
    let telling : Event := ⟨"instantiate_contract", [⟨"contract_address", "later"⟩]⟩
    let other : Event := ⟨"message", [⟨"contract_address", "other"⟩]⟩
    let apart : List MessageLog := [⟨0, "", [silent]⟩, ⟨1, "", [telling]⟩]
    let merged : List MessageLog := [⟨0, "", [signed, other, telling]⟩]
    HasType .contractAddress (ofMessages [⟨0, "", [silent]⟩]) ∧
      ¬ HasType .contractAddress (ofMessages [⟨0, "", [other]⟩]) ∧
      Relation.EqvGen (Edit .contractAddress) apart merged ∧
      extract? (ofMessages merged) .contractAddress = none ∧
      extract? (ofMessages [⟨0, "", [other]⟩, ⟨1, "", [telling]⟩]) .contractAddress =
        some "later" := by
  intro silent signed telling other apart merged
  have hdeal : Edit .contractAddress ([] ++ ⟨0, "", [silent] ++ [telling]⟩ :: []) apart := .deal
  have hsurplus : Edit .contractAddress
      ([] ++ ⟨0, "", [] ++ ⟨"instantiate_contract", [] ++ [⟨"code_id", "5"⟩]⟩ :: [telling]⟩ :: [])
      ([] ++ ⟨0, "", [signed] ++ [telling]⟩ :: []) := .surplus (by decide)
  have hforeign : Edit .contractAddress ([] ++ ⟨0, "", [signed] ++ [telling]⟩ :: []) merged :=
    .foreign (by decide)
  have hedits : Relation.EqvGen (Edit .contractAddress) apart merged :=
    .trans _ _ _ (.symm _ _ (.rel _ _ hdeal)) (.trans _ _ _ (.rel _ _ hsurplus) (.rel _ _ hforeign))
  obtain ⟨_, _, happend, hedited⟩ := extract_first_match .contractAddress
  have htype : HasType .contractAddress (ofMessages [⟨0, "", [silent]⟩]) := ⟨silent, by decide, rfl⟩
  have hnone : ¬ HasType .contractAddress (ofMessages [⟨0, "", [other]⟩]) := by
    simp [HasType, ofMessages, other, Target.contractAddress]
  refine ⟨htype, hnone, hedits, ?_, ?_⟩
  · rw [← hedited _ _ hedits]
    exact (happend _ _).1 htype
  · exact (happend _ _).2 hnone

end Proofs

end TxDispatch
