import Mathlib
import TxDispatch.Proofs.RecordEdits
import TxDispatch.Wallet

namespace TxDispatch

open Json (Tree)
open Json.Tree (Edit InItem field sound)
open Text

namespace Json

/-- The forms of a number of 64 bits: digits without sign, point and power of ten; text that is
digits, of which the first may follow a plus sign; or no text for zero. -/
inductive Loose (w : UInt64) : Tree → Prop where
  | number {ds : List Char} (h : Digits.value ds = w.toNat) : Loose w (.num ⟨false, ds, [], none⟩)
  | empty (zero : w = 0) : Loose w (.str (some ""))
  | text {sign ds : List Char} (plus : sign = [] ∨ sign = ['+']) (nonempty : ds ≠ [])
    (digits : ∀ c ∈ ds, c.isDigit = true) (h : Digits.value ds = w.toNat) :
    Loose w (.str (some (String.ofList (sign ++ ds))))

theorem Tree.loose64?_number (ds : List Char) :
    Tree.loose64? (.num ⟨false, ds, [], none⟩) = Digits.toWord64? (Digits.value ds) := by
  have hv : (⟨false, ds, [], none⟩ : Literal).unsigned? = some (Digits.value ds) :=
    Literal.unsigned?_eq_some_iff.mpr ⟨rfl, rfl⟩
  rw [Tree.loose64?, hv]
  rfl

theorem Tree.loose64?_text {sign ds : List Char} (plus : sign = [] ∨ sign = ['+'])
    (nonempty : ds ≠ []) (digits : ∀ c ∈ ds, c.isDigit = true) :
    Tree.loose64? (.str (some (String.ofList (sign ++ ds)))) =
      Digits.toWord64? (Digits.value ds) := by
  have hread := Digits.readSigned?_eq_some_iff.mpr ⟨sign, ds, plus, rfl, nonempty, digits, rfl⟩
  have hsome : (String.ofList (sign ++ ds)).isEmpty = false := by
    cases hempty : (String.ofList (sign ++ ds)).isEmpty with
    | false => rfl
    | true =>
      have hnil : sign ++ ds = [] := by simpa using hempty
      exact absurd (List.append_eq_nil_iff.mp hnil).2 nonempty
  simp only [Tree.loose64?, hsome, String.toList_ofList, hread]
  rfl

theorem Tree.loose64?_eq_some_iff {t : Tree} {w : UInt64} : t.loose64? = some w ↔ Loose w t := by
  constructor
  · intro h
    unfold Tree.loose64? at h
    split at h
    case h_1 n =>
      obtain ⟨v, hv, hw⟩ := Option.bind_eq_some_iff.mp h
      obtain ⟨hn, rfl⟩ := Literal.unsigned?_eq_some_iff.mp hv
      rw [hn]
      exact .number (Digits.toWord64?_eq_some_iff.mp hw)
    case h_2 s =>
      split at h
      case isTrue hempty =>
        obtain rfl : s = "" := by simpa using hempty
        cases h
        exact .empty rfl
      case isFalse =>
        obtain ⟨v, hv, hw⟩ := Option.bind_eq_some_iff.mp h
        obtain ⟨sign, ds, plus, hs, nonempty, digits, rfl⟩ := Digits.readSigned?_eq_some_iff.mp hv
        rw [← String.ofList_toList (s := s), hs]
        exact .text plus nonempty digits (Digits.toWord64?_eq_some_iff.mp hw)
    case h_3 => cases h
  · intro h
    cases h with
    | number h => rw [Tree.loose64?_number, Digits.toWord64?_eq_some_iff, h]
    | empty zero =>
      rw [zero]
      rfl
    | text plus nonempty digits h =>
      rw [Tree.loose64?_text plus nonempty digits, Digits.toWord64?_eq_some_iff, h]

end Json

open Json (Loose)

theorem Json.Tree.word32?_zero {ds : List Char} (zero : Digits.value ds = 0) :
    Tree.word32? (.num ⟨false, ds, [], none⟩) = some 0 := by
  have hv : (⟨false, ds, [], none⟩ : Json.Literal).unsigned? = some 0 :=
    Json.Literal.unsigned?_eq_some_iff.mpr ⟨rfl, zero⟩
  rw [Tree.word32?, hv]
  rfl

namespace Attribute

inductive Default (name : String) : Tree → Prop where
  | value (h : name = "value") : Default name (.str (some ""))

def Edit : Tree → Tree → Prop := Tree.Edit ["key", "value"] Default fun _ _ _ => False

theorem ofTree?_obj (ms : List (Option String × Tree)) :
    ofTree? (.obj ms) = if sound ["key", "value"] ms then do
        return ⟨← Tree.required? Tree.string? (field ms "key"),
          ← Tree.defaulted? Tree.string? "" (field ms "value")⟩
      else none := by
  rw [ofTree?, Json.Tree.fields?_eq]
  split <;> rfl

theorem Edit.ofTree? {t t' : Tree} (h : Edit t t') :
    Attribute.ofTree? t = Attribute.ofTree? t' := by
  obtain ⟨ms, ms', rfl, rfl, hsound, halike⟩ := Json.Tree.Edit.alike h
  have hkey := (halike "key" (by simp)).required? Tree.string? (by rintro _ ⟨same⟩; simp at same)
    fun _ _ h => h.elim
  have hvalue := (halike "value" (by simp)).defaulted? Tree.string? "" (by rintro _ ⟨_⟩; rfl)
    fun _ _ h => h.elim
  rw [ofTree?_obj, ofTree?_obj, hsound, hkey, hvalue]

end Attribute

namespace Event

inductive Default (name : String) : Tree → Prop where
  | attributes (h : name = "attributes") : Default name (.arr [])

inductive Respelled (name : String) : Tree → Tree → Prop where
  | attributes {x y : Tree} (h : name = "attributes") (edit : InItem Attribute.Edit x y) :
    Respelled name x y

def Edit : Tree → Tree → Prop := Tree.Edit ["type", "attributes"] Default Respelled

theorem ofTree?_obj (ms : List (Option String × Tree)) :
    ofTree? (.obj ms) = if sound ["type", "attributes"] ms then do
        return ⟨← Tree.required? Tree.string? (field ms "type"),
          ← Tree.defaulted? (Tree.list? Attribute.ofTree?) [] (field ms "attributes")⟩
      else none := by
  rw [ofTree?, Json.Tree.fields?_eq]
  split <;> rfl

theorem Edit.ofTree? {t t' : Tree} (h : Edit t t') : Event.ofTree? t = Event.ofTree? t' := by
  obtain ⟨ms, ms', rfl, rfl, hsound, halike⟩ := Json.Tree.Edit.alike h
  have hkind := (halike "type" (by simp)).required? Tree.string? (by rintro _ ⟨same⟩; simp at same)
    (by rintro _ _ ⟨same, _⟩; simp at same)
  have hattributes := (halike "attributes" (by simp)).defaulted? (Tree.list? Attribute.ofTree?) []
    (by rintro _ ⟨_⟩; rfl) (by rintro _ _ ⟨_, edit⟩; exact edit.list? _ fun _ _ h => h.ofTree?)
  rw [ofTree?_obj, ofTree?_obj, hsound, hkind, hattributes]

end Event

namespace MessageLog

/-- A field may be left out that is zero, no text or no events. -/
inductive Default (name : String) : Tree → Prop where
  | index {ds : List Char} (h : name = "msg_index") (zero : Digits.value ds = 0) :
    Default name (.num ⟨false, ds, [], none⟩)
  | note (h : name = "log") : Default name (.str (some ""))
  | events (h : name = "events") : Default name (.arr [])

inductive Respelled (name : String) : Tree → Tree → Prop where
  | events {x y : Tree} (h : name = "events") (edit : InItem Event.Edit x y) : Respelled name x y

def Edit : Tree → Tree → Prop := Tree.Edit ["msg_index", "log", "events"] Default Respelled

theorem ofTree?_obj (ms : List (Option String × Tree)) :
    ofTree? (.obj ms) = if sound ["msg_index", "log", "events"] ms then do
        return ⟨← Tree.defaulted? Tree.word32? 0 (field ms "msg_index"),
          ← Tree.defaulted? Tree.string? "" (field ms "log"),
          ← Tree.defaulted? (Tree.list? Event.ofTree?) [] (field ms "events")⟩
      else none := by
  rw [ofTree?, Json.Tree.fields?_eq]
  split <;> rfl

theorem Default.index_name {x : Tree} (h : Default "msg_index" x) : x.word32? = some 0 := by
  cases h with
  | index _ zero => exact Json.Tree.word32?_zero zero
  | note same | events same => simp at same

theorem Default.note_name {x : Tree} (h : Default "log" x) : x.string? = some "" := by
  cases h with
  | note => rfl
  | index same | events same => simp at same

theorem Default.events_name {x : Tree} (h : Default "events" x) : x = .arr [] := by
  cases h with
  | events => rfl
  | index same | note same => simp at same

theorem Edit.ofTree? {t t' : Tree} (h : Edit t t') :
    MessageLog.ofTree? t = MessageLog.ofTree? t' := by
  obtain ⟨ms, ms', rfl, rfl, hsound, halike⟩ := Json.Tree.Edit.alike h
  have hindex := (halike "msg_index" (by simp)).defaulted? Tree.word32? 0
    (fun _ hx => hx.index_name) (by rintro _ _ ⟨same, _⟩; simp at same)
  have hnote := (halike "log" (by simp)).defaulted? Tree.string? ""
    (fun _ hx => hx.note_name) (by rintro _ _ ⟨same, _⟩; simp at same)
  have hevents := (halike "events" (by simp)).defaulted? (Tree.list? Event.ofTree?) []
    (fun _ hx => by rw [hx.events_name]; rfl)
    (by rintro _ _ ⟨_, edit⟩; exact edit.list? _ fun _ _ h => h.ofTree?)
  rw [ofTree?_obj, ofTree?_obj, hsound, hindex, hnote, hevents]

end MessageLog

namespace Receipt

inductive Word where
  | height
  | gasWanted
  | gasUsed
deriving DecidableEq

namespace Word

def name : Word → String
  | height => "height"
  | gasWanted => "gas_wanted"
  | gasUsed => "gas_used"

theorem name_ne {name : String}
    (plain : name ∈ ["txhash", "code", "codespace", "raw_log", "logs"]) (f : Word) :
    name ≠ f.name := by
  rintro rfl
  cases f <;> simp [Word.name] at plain

def value (r : Receipt) : Word → UInt64
  | height => r.height
  | gasWanted => r.gasWanted
  | gasUsed => r.gasUsed

def clear (r : Receipt) : Word → Receipt
  | height => { r with height := 0 }
  | gasWanted => { r with gasWanted := 0 }
  | gasUsed => { r with gasUsed := 0 }

end Word

inductive Default (name : String) : Tree → Prop where
  | word {f : Word} {x : Tree} (h : name = f.name) (zero : Loose 0 x) : Default name x
  | text (h : name ∈ ["txhash", "codespace", "raw_log"]) : Default name (.str (some ""))
  | code {ds : List Char} (h : name = "code") (zero : Digits.value ds = 0) :
    Default name (.num ⟨false, ds, [], none⟩)
  | logs (h : name = "logs") : Default name .null

/-- A number of 64 bits may be written as its decimal text. -/
inductive Respelled (name : String) : Tree → Tree → Prop where
  | word {f : Word} {ds : List Char} (h : name = f.name) (digits : ∀ c ∈ ds, c.isDigit = true) :
    Respelled name (.num ⟨false, ds, [], none⟩) (.str (some (String.ofList ds)))
  | logs {x y : Tree} (h : name = "logs") (edit : InItem MessageLog.Edit x y) : Respelled name x y

def fieldNames : List String :=
  ["height", "txhash", "code", "codespace", "raw_log", "logs", "gas_wanted", "gas_used"]

def Edit : Tree → Tree → Prop := Tree.Edit fieldNames Default Respelled

theorem ofTree?_obj_eq_some_iff {ms : List (Option String × Tree)} {r : Receipt} :
    ofTree? (.obj ms) = some r ↔ sound fieldNames ms = true ∧
      (∀ f : Word, Tree.defaulted? Tree.loose64? 0 (field ms f.name) = some (f.value r)) ∧
      Tree.defaulted? Tree.string? "" (field ms "txhash") = some r.txhash ∧
      Tree.defaulted? Tree.word32? 0 (field ms "code") = some r.code ∧
      Tree.defaulted? Tree.string? "" (field ms "codespace") = some r.codespace ∧
      Tree.defaulted? Tree.string? "" (field ms "raw_log") = some r.rawLog ∧
      Tree.defaulted? (Tree.orNull? MessageLog.listOfTree?) none (field ms "logs") =
        some r.logs := by
  rw [ofTree?, Json.Tree.fields?_eq, ← fieldNames]
  cases sound fieldNames ms with
  | false => simp
  | true =>
    simp only [fieldNames, List.map_cons, List.map_nil, if_true, Option.bind_eq_bind,
      Option.bind_some, Option.bind_eq_some_iff, Option.pure_def, Option.some.injEq, true_and]
    constructor
    · rintro ⟨height, hheight, txhash, htxhash, code, hcode, codespace, hcodespace, rawLog, hrawLog,
        logs, hlogs, gasWanted, hgasWanted, gasUsed, hgasUsed, hr⟩
      subst hr
      refine ⟨?_, htxhash, hcode, hcodespace, hrawLog, hlogs⟩
      intro f
      cases f with
      | height => exact hheight
      | gasWanted => exact hgasWanted
      | gasUsed => exact hgasUsed
    · rintro ⟨hword, htxhash, hcode, hcodespace, hrawLog, hlogs⟩
      exact ⟨_, hword .height, _, htxhash, _, hcode, _, hcodespace, _, hrawLog, _, hlogs,
        _, hword .gasWanted, _, hword .gasUsed, rfl⟩

theorem texts_subset : ["txhash", "codespace", "raw_log"] ⊆
    ["txhash", "code", "codespace", "raw_log", "logs"] := by
  simp

theorem Default.word_name {f : Word} {x : Tree} (h : Default f.name x) : Loose 0 x := by
  cases h with
  | word _ zero => exact zero
  | text h => exact absurd rfl (Word.name_ne (texts_subset h) f)
  | code h | logs h => exact absurd h.symm (Word.name_ne (by simp) f)

theorem Respelled.word_name {f : Word} {x y : Tree} (h : Respelled f.name x y) :
    x.loose64? = y.loose64? := by
  cases h with
  | @word _ ds _ digits =>
    cases ds with
    | nil => rfl
    | cons c ds =>
      rw [Json.Tree.loose64?_number]
      exact (@Json.Tree.loose64?_text [] (c :: ds) (.inl rfl) (by simp) digits).symm
  | logs h => exact absurd h.symm (Word.name_ne (by simp) f)

theorem Default.text_name {name : String} {x : Tree} (h : Default name x)
    (text : name ∈ ["txhash", "codespace", "raw_log"]) : x.string? = some "" := by
  cases h with
  | text => rfl
  | word same => exact absurd same (Word.name_ne (texts_subset text) _)
  | code same | logs same => simp [same] at text

theorem Default.code_name {x : Tree} (h : Default "code" x) : x.word32? = some 0 := by
  cases h with
  | code _ zero => exact Json.Tree.word32?_zero zero
  | word same => exact absurd same (Word.name_ne (by simp) _)
  | text same | logs same => simp at same

theorem Default.logs_name {x : Tree} (h : Default "logs" x) : x = .null := by
  cases h with
  | logs => rfl
  | word same => exact absurd same (Word.name_ne (by simp) _)
  | text same | code same => simp at same

theorem Respelled.not_plain {name : String} {x y : Tree} (h : Respelled name x y) :
    name ∉ ["txhash", "codespace", "raw_log", "code"] := by
  intro plain
  cases h with
  | word same =>
    have hplain : name ∈ ["txhash", "code", "codespace", "raw_log", "logs"] := by
      simp only [List.mem_cons, List.not_mem_nil, or_false] at plain
      rcases plain with rfl | rfl | rfl | rfl <;> simp
    exact Word.name_ne hplain _ same
  | logs same => simp [same] at plain

theorem Respelled.logs_name {x y : Tree} (h : Respelled "logs" x y) :
    Tree.orNull? MessageLog.listOfTree? x = Tree.orNull? MessageLog.listOfTree? y := by
  cases h with
  | word same => exact absurd same (Word.name_ne (by simp) _)
  | logs _ edit =>
    have hlist := edit.list? MessageLog.ofTree? fun _ _ h => h.ofTree?
    cases edit with
    | item => exact congrArg (Option.map some) hlist

theorem Edit.ofTree? {t t' : Tree} (h : Edit t t') : Receipt.ofTree? t = Receipt.ofTree? t' := by
  obtain ⟨ms, ms', rfl, rfl, hsound, halike⟩ := Json.Tree.Edit.alike h
  have hword : ∀ f : Word, Tree.defaulted? Tree.loose64? 0 (field ms f.name) =
      Tree.defaulted? Tree.loose64? 0 (field ms' f.name) := by
    intro f
    exact (halike f.name (by cases f <;> simp [fieldNames, Word.name])).defaulted? _ _
      (fun _ hx => Json.Tree.loose64?_eq_some_iff.mpr hx.word_name) fun _ _ hxy => hxy.word_name
  have htext : ∀ name ∈ ["txhash", "codespace", "raw_log"],
      Tree.defaulted? Tree.string? "" (field ms name) =
        Tree.defaulted? Tree.string? "" (field ms' name) := by
    intro name hname
    have hmem : name ∈ fieldNames ∧ name ∈ ["txhash", "codespace", "raw_log", "code"] := by
      simp only [List.mem_cons, List.not_mem_nil, or_false] at hname
      rcases hname with rfl | rfl | rfl <;> simp [fieldNames]
    exact (halike name hmem.1).defaulted? _ _ (fun _ hx => hx.text_name hname)
      fun _ _ hxy => absurd hmem.2 hxy.not_plain
  have hcode := (halike "code" (by simp [fieldNames])).defaulted? Tree.word32? 0
    (fun _ hx => hx.code_name) fun _ _ hxy => absurd (by simp) hxy.not_plain
  have hlogs := (halike "logs" (by simp [fieldNames])).defaulted?
    (Tree.orNull? MessageLog.listOfTree?) none (fun _ hx => by rw [hx.logs_name]; rfl)
    fun _ _ hxy => hxy.logs_name
  apply Option.ext
  intro r
  rw [ofTree?_obj_eq_some_iff, ofTree?_obj_eq_some_iff, hsound, htext _ (by simp),
    htext "codespace" (by simp), htext "raw_log" (by simp), hcode, hlogs]
  simp only [hword]

end Receipt

theorem Json.decodes_nat64 (w : UInt64) : Decodes Tree.loose64? w (.nat w.toNat) := by
  have hliteral : Json.Literal.ofInt w.toNat = ⟨false, Digits.ofNat w.toNat, [], none⟩ := by
    simp [Json.Literal.ofInt]
  rw [Decodes, Json.nat, Json.tree, hliteral, Json.Tree.loose64?_eq_some_iff]
  exact .number (Digits.value_ofNat _)

theorem Receipt.decodes (r : Receipt) : Json.Decodes Receipt.ofTree? r r.toJson := by
  have hword : ∀ f : Word, Tree.loose64? (Json.nat (f.value r).toNat).tree = some (f.value r) :=
    fun f => Json.decodes_nat64 (f.value r)
  have hcode : Tree.word32? (Json.nat r.code.toNat).tree = some r.code := Json.decodes_nat32 r.code
  rw [Json.Decodes, Receipt.toJson, Json.tree, ofTree?_obj_eq_some_iff]
  simp only [Json.memberTrees]
  refine ⟨by simp [sound, fieldNames, Json.Tree.member?], ?_, ?_, ?_, ?_, ?_, ?_⟩
  · intro f
    have hf := hword f
    cases f <;>
      simpa [field, Json.Tree.member?, Tree.defaulted?, Word.name, Word.value] using hf
  · simp [field, Json.Tree.member?, Tree.defaulted?, Tree.string?, Json.tree]
  · simpa [field, Json.Tree.member?, Tree.defaulted?] using hcode
  · simp [field, Json.Tree.member?, Tree.defaulted?, Tree.string?, Json.tree]
  · simp [field, Json.Tree.member?, Tree.defaulted?, Tree.string?, Json.tree]
  · cases r.logs with
    | none => simp [field, Json.Tree.member?, Tree.defaulted?, Tree.orNull?, Json.tree]
    | some logs =>
      have hlogs := (MessageLog.listForm_listToJson logs).decodes
      rw [Json.Decodes, MessageLog.listToJson, Json.tree] at hlogs
      simp [field, Json.Tree.member?, Tree.defaulted?, Tree.orNull?, MessageLog.listToJson,
        Json.tree, hlogs]

namespace Receipt

theorem Word.name_injective {f g : Word} (h : f.name = g.name) : f = g := by
  cases f <;> cases g <;> simp [name] at h ⊢

theorem Word.value_clear (r : Receipt) (f g : Word) :
    g.value (f.clear r) = if g = f then 0 else g.value r := by
  cases f <;> cases g <;> rfl

theorem forall_word_cons {f : Word} {x : Tree} {ms : List (Option String × Tree)} {r : Receipt}
    (absent : some f.name ∉ ms.map Prod.fst) :
    (∀ g : Word, Tree.defaulted? Tree.loose64? 0 (field ((some f.name, x) :: ms) g.name) =
      some (g.value r)) ↔
      Loose (f.value r) x ∧ ∀ g : Word,
        Tree.defaulted? Tree.loose64? 0 (field ms g.name) = some (g.value (f.clear r)) := by
  have hself : Tree.defaulted? Tree.loose64? 0 (field ((some f.name, x) :: ms) f.name) =
      x.loose64? := by
    rw [Json.Tree.field_cons_self absent]
    rfl
  have hnone : Tree.defaulted? Tree.loose64? 0 (field ms f.name) = some 0 := by
    rw [Json.Tree.field_absent absent]
    rfl
  have hother : ∀ g : Word, g ≠ f → field ((some f.name, x) :: ms) g.name = field ms g.name :=
    fun g hne => Json.Tree.field_cons_ne fun same => hne (Word.name_injective same).symm
  rw [← Json.Tree.loose64?_eq_some_iff]
  constructor
  · intro h
    refine ⟨hself.symm.trans (h f), ?_⟩
    intro g
    rw [Word.value_clear]
    split
    case isTrue same => rw [same, hnone]
    case isFalse hne =>
      rw [← hother g hne]
      exact h g
  · intro ⟨hx, h⟩ g
    by_cases hne : g = f
    · rw [hne, hself, hx]
    · have hg := h g
      rw [Word.value_clear, if_neg hne] at hg
      rw [hother g hne, hg]

/-- A field that holds a number is in one of its forms, and decides nothing else. -/
theorem ofTree?_word {f : Word} {x : Tree} {ms : List (Option String × Tree)} {r : Receipt}
    (absent : some f.name ∉ ms.map Prod.fst) :
    ofTree? (.obj ((some f.name, x) :: ms)) = some r ↔
      Loose (f.value r) x ∧ ofTree? (.obj ms) = some (f.clear r) := by
  have hkept : (f.clear r).txhash = r.txhash ∧ (f.clear r).code = r.code ∧
      (f.clear r).codespace = r.codespace ∧ (f.clear r).rawLog = r.rawLog ∧
      (f.clear r).logs = r.logs := by
    cases f <;> exact ⟨rfl, rfl, rfl, rfl, rfl⟩
  obtain ⟨htxhash, hcode, hcodespace, hrawLog, hlogs⟩ := hkept
  have hplain : ∀ name ∈ ["txhash", "code", "codespace", "raw_log", "logs"],
      field ((some f.name, x) :: ms) name = field ms name :=
    fun name plain => Json.Tree.field_cons_ne fun same => Word.name_ne plain f same.symm
  rw [ofTree?_obj_eq_some_iff, ofTree?_obj_eq_some_iff, Json.Tree.sound_cons absent,
    forall_word_cons absent, hplain "txhash" (by simp), hplain "code" (by simp),
    hplain "codespace" (by simp), hplain "raw_log" (by simp),
    hplain "logs" (by simp), htxhash, hcode, hcodespace, hrawLog, hlogs, and_assoc,
    and_left_comm]

end Receipt

theorem AccountInfo.ofTree?_obj_eq_some_iff {ms : List (Option String × Tree)} {a : AccountInfo} :
    ofTree? (.obj ms) = some a ↔ sound ["account_number", "sequence"] ms = true ∧
      Tree.required? Tree.loose64? (field ms "account_number") = some a.accountNumber ∧
      Tree.required? Tree.loose64? (field ms "sequence") = some a.sequence := by
  rw [ofTree?, Json.Tree.fields?_eq]
  cases sound ["account_number", "sequence"] ms with
  | false => simp
  | true =>
    simp only [List.map_cons, List.map_nil, if_true, Option.bind_eq_bind, Option.bind_some,
      Option.bind_eq_some_iff, Option.pure_def, Option.some.injEq, true_and]
    constructor
    · rintro ⟨number, hnumber, sequence, hsequence, ha⟩
      subst ha
      exact ⟨hnumber, hsequence⟩
    · rintro ⟨hnumber, hsequence⟩
      exact ⟨_, hnumber, _, hsequence, rfl⟩

/-- Both numbers of an account are in one of their forms, among whatever other members. -/
theorem AccountInfo.ofTree?_members {ms rest : List (Option String × Tree)} {x y : Tree}
    {a : AccountInfo}
    (order : ms.Perm ((some "account_number", x) :: (some "sequence", y) :: rest))
    (named : ∀ m ∈ rest, m.1.isSome = true)
    (other : ∀ m ∈ rest, m.1 ≠ some "account_number" ∧ m.1 ≠ some "sequence") :
    ofTree? (.obj ms) = some a ↔ Loose a.accountNumber x ∧ Loose a.sequence y := by
  have hsequence : some "sequence" ∉ rest.map Prod.fst := by
    intro hmem
    obtain ⟨m, hm, same⟩ := List.mem_map.mp hmem
    exact (other m hm).2 same
  have hnumber : some "account_number" ∉ ((some "sequence", y) :: rest).map Prod.fst := by
    intro hmem
    rcases List.mem_cons.mp hmem with same | hmem
    · simp at same
    · obtain ⟨m, hm, same⟩ := List.mem_map.mp hmem
      exact (other m hm).1 same
  have hsound : sound ["account_number", "sequence"]
      ((some "account_number", x) :: (some "sequence", y) :: rest) = true := by
    rw [Json.Tree.sound_cons hnumber, Json.Tree.sound_cons hsequence, sound,
      List.all_eq_true.mpr named]
    rw [List.map_cons, List.mem_cons, not_or] at hnumber
    simp [Json.Tree.member?_absent hsequence, Json.Tree.member?_absent hnumber.2]
  have hread : ofTree? (.obj ms) =
      ofTree? (.obj ((some "account_number", x) :: (some "sequence", y) :: rest)) := by
    rw [ofTree?, ofTree?, Json.Tree.fields?_perm order]
  rw [hread, ofTree?_obj_eq_some_iff, Json.Tree.field_cons_self hnumber,
    Json.Tree.field_cons_ne (by simp), Json.Tree.field_cons_self hsequence,
    ← Json.Tree.loose64?_eq_some_iff, ← Json.Tree.loose64?_eq_some_iff]
  simp [hsound, Tree.required?]

namespace Proofs

open Json.Grammar (Document)

/-- A receipt is read back from its text, and edits that are read alike do not change what is read.
A field of 64 bits is taken in its forms and in no others, in a receipt as in an account. -/
theorem receipt_codec :
    (∀ r : Receipt, (Tree.ofText? r.toJson.text).bind Receipt.ofTree? = some r) ∧
    (∀ s s' t t', Document t s.toList → Document t' s'.toList →
      Relation.EqvGen Receipt.Edit t t' →
      (Tree.ofText? s).bind Receipt.ofTree? = (Tree.ofText? s').bind Receipt.ofTree?) ∧
    (∀ x w, Tree.loose64? x = some w ↔ Loose w x) ∧
    (∀ (f : Receipt.Word) x ms r, some f.name ∉ ms.map Prod.fst →
      (Receipt.ofTree? (.obj ((some f.name, x) :: ms)) = some r ↔
        Loose (f.value r) x ∧ Receipt.ofTree? (.obj ms) = some (f.clear r))) ∧
    ∀ x y ms rest a, ms.Perm ((some "account_number", x) :: (some "sequence", y) :: rest) →
      (∀ m ∈ rest, m.1.isSome = true) →
      (∀ m ∈ rest, m.1 ≠ some "account_number" ∧ m.1 ≠ some "sequence") →
      (AccountInfo.ofTree? (.obj ms) = some a ↔ Loose a.accountNumber x ∧ Loose a.sequence y) := by
  refine ⟨fun r => r.decodes.ofText, ?_, fun x w => Json.Tree.loose64?_eq_some_iff, ?_, ?_⟩
  · intro s s' t t' ht ht' edited
    have hsame : Receipt.ofTree? t = Receipt.ofTree? t' := by
      clear ht ht'
      induction edited with
      | rel _ _ edit => exact edit.ofTree?
      | refl => rfl
      | symm _ _ _ ih => exact ih.symm
      | trans _ _ _ _ _ ih ih' => exact ih.trans ih'
    rw [Tree.ofText?, Tree.ofText?, Json.Grammar.tree?_eq_some_iff.mpr ht,
      Json.Grammar.tree?_eq_some_iff.mpr ht']
    exact hsame
  · intro f x ms r absent
    exact Receipt.ofTree?_word absent
  · intro x y ms rest a order named other
    exact AccountInfo.ofTree?_members order named other

def statedText : String :=
  "\x7b\"height\":7,\"logs\":[\x7b\"events\":[\x7b\"attributes\":[\x7b\"value\":\"\",\"key\":\"k\"" ++
    "\x7d],\"type\":\"t\"\x7d]\x7d]\x7d"

def gatewayText : String :=
  "\x7b \"new\": [1e999], \"logs\":[\x7b\"events\":[\x7b\"attributes\":[\x7b\"key\":\"k\"\x7d]," ++
    "\"type\":\"t\"\x7d]\x7d], \"height\":\"7\"\x7d"

def keyMember : Option String × Tree := (some "key", .str (some "k"))

def logsTree (attributes : Tree) : Tree :=
  .arr [.obj [(some "events", .arr [.obj [(some "attributes", .arr [attributes]),
    (some "type", .str (some "t"))]])]]

theorem statedText_tree : Json.Reader.tree? statedText.toList = some (.obj [
    (some "height", .num ⟨false, ['7'], [], none⟩),
    (some "logs", logsTree (.obj [(some "value", .str (some "")), keyMember]))]) := by cbv

theorem gatewayText_tree : Json.Reader.tree? gatewayText.toList = some (.obj [
    (some "new", .arr [.num ⟨false, ['1'], [], some (false, ['9', '9', '9'])⟩]),
    (some "logs", logsTree (.obj [keyMember])), (some "height", .str (some "7"))]) := by cbv

theorem receipt_codec_gateway :
    let r : Receipt := { height := 7, logs := some [⟨0, "", [⟨"t", [⟨"k", ""⟩]⟩]⟩] }
    (Tree.ofText? r.toJson.text).bind Receipt.ofTree? = some r ∧
      (Tree.ofText? statedText).bind Receipt.ofTree? = some r ∧
      (Tree.ofText? gatewayText).bind Receipt.ofTree? = some r ∧
      Receipt.ofTree? (.obj [(some "height", .str (some "+007"))]) = some { height := 7 } ∧
      AccountInfo.ofTree? (.obj [(some "new", .null), (some "sequence", .str (some "")),
        (some "account_number", .num ⟨false, ['9'], [], none⟩)]) = some ⟨9, 0⟩ := by
  intro r
  have hattribute : Attribute.Edit (.obj [(some "value", .str (some "")), keyMember])
      (.obj [keyMember]) := Edit.omitted (by decide) (.value rfl)
  have hevent := @Edit.rewritten ["type", "attributes"] Event.Default _
    [(some "type", .str (some "t"))] _ _ _
    (Event.Respelled.attributes rfl (@InItem.item _ [] [] _ _ hattribute))
  have hlog := @Edit.rewritten ["msg_index", "log", "events"] MessageLog.Default _ [] _ _ _
    (MessageLog.Respelled.events rfl (@InItem.item _ [] [] _ _ hevent))
  have hheight := @Edit.rewritten Receipt.fieldNames Receipt.Default _
    [(some "logs", logsTree (.obj [(some "value", .str (some "")), keyMember]))] _ _ _
    (@Receipt.Respelled.word _ .height ['7'] rfl (by simp))
  have hlogs := @Edit.rewritten Receipt.fieldNames Receipt.Default _
    [(some "height", .str (some "7"))] _ _ _
    (Receipt.Respelled.logs rfl (@InItem.item _ [] [] _ _ hlog))
  obtain ⟨hback, hedits, _, hword, haccount⟩ := receipt_codec
  have hsame := hedits statedText gatewayText _ _
    (Json.Grammar.tree?_eq_some_iff.mp statedText_tree)
    (Json.Grammar.tree?_eq_some_iff.mp gatewayText_tree)
    (.trans _ _ _ (.rel _ _ hheight) (.trans _ _ _ (.rel _ _ (.reordered (.swap _ _ _)))
      (.trans _ _ _ (.rel _ _ hlogs) (.rel _ _ (.extended (by decide))))))
  have hr : (Tree.ofText? statedText).bind Receipt.ofTree? = some r := by
    rw [Tree.ofText?, statedText_tree]
    rfl
  refine ⟨hback r, hr, hsame ▸ hr, ?_, ?_⟩
  · exact (hword .height _ [] { height := 7 } (by decide)).mpr
      ⟨@Loose.text 7 ['+'] ['0', '0', '7'] (.inr rfl) (by simp) (by simp) rfl, rfl⟩
  · exact (haccount _ _ _ [(some "new", .null)] ⟨9, 0⟩ (List.reverse_perm [_, _, _]) (by simp)
      (by simp)).mpr ⟨.number rfl, .empty rfl⟩

end Proofs

end TxDispatch
