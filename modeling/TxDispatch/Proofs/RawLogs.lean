import Mathlib.Data.List.Forall2
import TxDispatch.Proofs.ReadBack
import TxDispatch.Receipt

namespace TxDispatch

namespace Json

namespace Tree

/-- The order of the members does not decide what stands under a name. -/
theorem member?_perm {name : String} {xs ys : List (Option String × Tree)} (order : xs.Perm ys) :
    member? name xs = member? name ys := by
  have hfound := order.filter fun m => m.1 == some name
  have hlength := hfound.length_eq
  unfold member?
  generalize xs.filter _ = found at hfound hlength ⊢
  generalize ys.filter _ = found' at hfound hlength ⊢
  match found, found' with
  | [], [] | _ :: _ :: _, _ :: _ :: _ => rfl
  | [m], [n] => rw [List.singleton_perm_singleton.mp hfound]
  | [], _ :: _ | _ :: _, [] | [_], _ :: _ :: _ | _ :: _ :: _, [_] => simp at hlength

theorem fields?_perm {surplus : Bool} {names : List String} {xs ys : List (Option String × Tree)}
    (order : xs.Perm ys) : fields? surplus names (.obj xs) = fields? surplus names (.obj ys) := by
  simp only [fields?, order.all_eq, member?_perm order]

end Tree

/-- A value whose tree is decoded as given, and whose text is therefore. -/
def Decodes {α : Type} (decode : Tree → Option α) (x : α) (v : Json) : Prop :=
  decode v.tree = some x

theorem Decodes.ofText {α : Type} {decode : Tree → Option α} {x : α} {v : Json}
    (h : Decodes decode x v) : (Tree.ofText? v.text).bind decode = some x := by
  rw [ofText?_text v]
  exact h

/-- A list is decoded if each of its items is. -/
theorem Decodes.list {α : Type} {decode : Tree → Option α} {xs : List α} {items : List Json}
    (each : List.Forall₂ (Decodes decode) xs items) :
    Decodes (Tree.list? decode) xs (.arr items) := by
  induction each with
  | nil => rfl
  | cons first _ ih =>
    simp only [Decodes, tree, Tree.list?] at first ih ⊢
    simp [itemTrees, first, ih]

/-- A record is decoded by its fields, in whatever order its members stand. -/
theorem Decodes.record {α : Type} {decode : Tree → Option α} {x : α} {ms ns : List (String × Json)}
    (order : ms.Perm ns)
    (fields : ∀ xs ys : List (Option String × Tree), xs.Perm ys →
      decode (.obj xs) = decode (.obj ys)) (h : Decodes decode x (.obj ns)) :
    Decodes decode x (.obj ms) := by
  rw [Decodes, tree, memberTrees_eq_map] at h ⊢
  rw [fields _ _ (order.map _), h]

end Json

open Json (Tree Decodes)

inductive Attribute.Form (a : Attribute) : Json → Prop where
  | members {ms} (order : ms.Perm [("key", .str a.key), ("value", .str a.value)]) : Form a (.obj ms)

inductive Event.Form (e : Event) : Json → Prop where
  | members {ms attributes} (each : List.Forall₂ Attribute.Form e.attributes attributes)
      (order : ms.Perm [("attributes", .arr attributes), ("type", .str e.kind)]) : Form e (.obj ms)

inductive MessageLog.Form (m : MessageLog) : Json → Prop where
  | members {ms events} (each : List.Forall₂ Event.Form m.events events)
      (order : ms.Perm [("events", .arr events), ("log", .str m.note),
        ("msg_index", .nat m.index.toNat)]) : Form m (.obj ms)

inductive MessageLog.ListForm (logs : List MessageLog) : Json → Prop where
  | items {items} (each : List.Forall₂ MessageLog.Form logs items) : ListForm logs (.arr items)

theorem Attribute.Form.decodes {a : Attribute} {v : Json} (form : a.Form v) :
    Decodes Attribute.ofTree? a v := by
  obtain ⟨order⟩ := form
  refine .record order (fun xs ys h => by simp only [Attribute.ofTree?, Tree.fields?_perm h]) ?_
  rfl

theorem Event.Form.decodes {e : Event} {v : Json} (form : e.Form v) :
    Decodes Event.ofTree? e v := by
  obtain ⟨each, order⟩ := form
  refine .record order (fun xs ys h => by simp only [Event.ofTree?, Tree.fields?_perm h]) ?_
  have hattributes := Decodes.list (each.imp fun _ _ h => h.decodes)
  simp only [Decodes, Json.tree] at hattributes
  simp [Decodes, Json.tree, Json.memberTrees, Event.ofTree?, Tree.fields?, Tree.member?,
    Tree.required?, Tree.string?, Tree.defaulted?, hattributes]

theorem Json.decodes_nat32 (n : UInt32) : Decodes Tree.word32? n (.nat n.toNat) := by
  simp [Decodes, nat, tree, Tree.word32?, Literal.unsigned?, Literal.ofInt, Literal.isWhole,
    Text.Digits.value_ofNat, Text.Digits.toWord32?_toNat]

theorem MessageLog.Form.decodes {m : MessageLog} {v : Json} (form : m.Form v) :
    Decodes MessageLog.ofTree? m v := by
  obtain ⟨each, order⟩ := form
  refine .record order (fun xs ys h => by simp only [MessageLog.ofTree?, Tree.fields?_perm h]) ?_
  have hevents := Decodes.list (each.imp fun _ _ h => h.decodes)
  have hindex := Json.decodes_nat32 m.index
  simp only [Decodes, Json.tree] at hevents hindex
  simp [Decodes, Json.tree, Json.memberTrees, MessageLog.ofTree?, Tree.fields?, Tree.member?,
    Tree.string?, Tree.defaulted?, hindex, hevents]

theorem MessageLog.ListForm.decodes {logs : List MessageLog} {v : Json} (form : ListForm logs v) :
    Decodes MessageLog.listOfTree? logs v := by
  obtain ⟨each⟩ := form
  exact .list (each.imp fun _ _ h => h.decodes)

theorem EventLog.ofRawLog?_eq_map (rawLog : String) :
    ofRawLog? rawLog =
      ((Tree.ofText? rawLog).bind MessageLog.listOfTree?).map ofMessages := by
  simp only [Option.map_eq_bind, Option.bind_assoc]
  rfl

/-- What is written item by item has the forms of its items. -/
theorem forms_map {α : Type} {form : α → Json → Prop} {write : α → Json}
    (each : ∀ x, form x (write x)) (xs : List α) : List.Forall₂ form xs (xs.map write) :=
  List.forall₂_map_right_iff.mpr (List.forall₂_same.mpr fun x _ => each x)

theorem Attribute.form_toJson (a : Attribute) : a.Form a.toJson := .members (.refl _)

theorem Event.form_toJson (e : Event) : e.Form e.toJson :=
  .members (forms_map Attribute.form_toJson _) (.refl _)

theorem MessageLog.form_toJson (m : MessageLog) : m.Form m.toJson :=
  .members (forms_map Event.form_toJson _) (.refl _)

theorem MessageLog.listForm_listToJson (logs : List MessageLog) : ListForm logs (listToJson logs) :=
  .items (forms_map form_toJson _)

namespace Proofs

/-- Without logs of its own an answer is told by its raw log. -/
theorem eventLog_of_rawLog {r : Receipt} {log : EventLog} (bare : r.logs = none ∨ r.logs = some [])
    (raw : EventLog.ofRawLog? r.rawLog = some log) : r.eventLog = log := by
  rcases bare with h | h <;> simp [Receipt.eventLog, h, raw]

theorem eventLog_of_logs {r : Receipt} {logs : List MessageLog} (nonempty : logs ≠ [])
    (own : r.logs = some logs) : r.eventLog = EventLog.ofMessages logs := by
  cases logs with
  | nil => exact absurd rfl nonempty
  | cons m ms => simp [Receipt.eventLog, own]

/-- Logs as they are and a raw log that is any JSON text of them give the same events, and the same
value at every target. -/
theorem rawLog_agrees (logs : List MessageLog) :
    MessageLog.ListForm logs (MessageLog.listToJson logs) ∧
      ∀ v, MessageLog.ListForm logs v →
        EventLog.ofRawLog? v.text = some (EventLog.ofMessages logs) ∧
        ∀ a b : Receipt, logs ≠ [] → a.logs = some logs → b.logs = none ∨ b.logs = some [] →
          b.rawLog = v.text → a.eventLog = b.eventLog ∧
            ∀ target, a.eventLog.extract? target = b.eventLog.extract? target := by
  refine ⟨MessageLog.listForm_listToJson logs, fun v form => ?_⟩
  have hraw : EventLog.ofRawLog? v.text = some (EventLog.ofMessages logs) := by
    rw [EventLog.ofRawLog?_eq_map, form.decodes.ofText, Option.map_some]
  refine ⟨hraw, fun a b nonempty own bare raw => ?_⟩
  have hsame : a.eventLog = b.eventLog := by
    rw [eventLog_of_logs nonempty own, eventLog_of_rawLog bare (raw ▸ hraw)]
  exact ⟨hsame, fun target => by rw [hsame]⟩

/-- Logs with quotes, a backslash and controls, whose text has the members of each object in the
order in which a gateway writes them. -/
theorem rawLog_agrees_escaped :
    let logs : List MessageLog := [⟨0, "\"\\\n\x01", [⟨"store_code", [⟨"code_id", "\x7f\"3\""⟩]⟩]⟩]
    let v : Json := .arr [.obj [("msg_index", .int 0), ("log", .str "\"\\\n\x01"),
      ("events", .arr [.obj [("type", .str "store_code"),
        ("attributes", .arr [.obj [("key", .str "code_id"), ("value", .str "\x7f\"3\"")]])]])]]
    let a : Receipt := { logs := some logs, rawLog := "[]" }
    let b : Receipt := { logs := some [], rawLog := v.text }
    MessageLog.ListForm logs v ∧ logs ≠ [] ∧
      EventLog.ofRawLog? v.text = some (EventLog.ofMessages logs) ∧ a.eventLog = b.eventLog ∧
      ∀ target, a.eventLog.extract? target = b.eventLog.extract? target := by
  intro logs v a b
  have hform : MessageLog.ListForm logs v :=
    .items (.cons (.members (.cons (.members (.cons (.members (.refl _)) .nil)
      (List.reverse_perm [_, _])) .nil) (List.reverse_perm [_, _, _])) .nil)
  obtain ⟨hraw, hsame⟩ := (rawLog_agrees logs).2 v hform
  exact ⟨hform, by simp [logs], hraw, hsame a b (by simp [logs]) rfl (.inr rfl) rfl⟩

end Proofs

end TxDispatch
