import TxDispatch.Proofs.CompactCoins
import TxDispatch.Proofs.RawLogs
import TxDispatch.Fee

namespace TxDispatch

open Json (Tree Decodes)
open Text

/-- The JSON forms of a coin: its members in any order, or its fields in a list. -/
inductive Coin.Form (c : Coin) : Json → Prop where
  | members {ms} (order : ms.Perm [("amount", .str (Digits.text c.amount.toNat)),
      ("denom", .str c.denom)]) : Form c (.obj ms)
  | fields : Form c (.arr [.str c.denom, .str (Digits.text c.amount.toNat)])

inductive Coins.Form (coins : List Coin) : Json → Prop where
  | items {items} (each : List.Forall₂ Coin.Form coins items) : Form coins (.arr items)

inductive Fee.Form (f : Fee) : Json → Prop where
  | members {ms amount} (coins : Coins.Form f.amount amount)
      (order : ms.Perm [("amount", amount), ("gas", .str (Digits.text f.gasLimit.toNat))]) :
      Form f (.obj ms)
  | fields {amount} (coins : Coins.Form f.amount amount) :
      Form f (.arr [.str (Digits.text f.gasLimit.toNat), amount])

theorem Coin.amount?_text (w : BitVec 128) :
    Coin.amount? (.str (some (Digits.text w.toNat))) = some w := by
  have hword : Digits.toWord128? w.toNat = some w := Digits.toWord128?_eq_some_iff.mpr rfl
  simp [Coin.amount?, Tree.string?, Digits.text, Digits.readSigned?_ofNat, hword]

theorem Fee.gas?_text (w : UInt64) : Fee.gas? (.str (some (Digits.text w.toNat))) = some w := by
  have hword : Digits.toWord64? w.toNat = some w := Digits.toWord64?_eq_some_iff.mpr rfl
  simp [Fee.gas?, Tree.string?, Digits.text, Digits.readSigned?_ofNat, hword]

theorem Coin.Form.decodes {c : Coin} {v : Json} (form : c.Form v) : Decodes Coin.ofTree? c v := by
  have hamount := Coin.amount?_text c.amount
  cases form with
  | members order =>
    refine .record order (fun xs ys h => by simp only [Coin.ofTree?, Tree.fields?_perm h]) ?_
    simp [Decodes, Json.tree, Json.memberTrees, Coin.ofTree?, Tree.fields?, Tree.member?,
      Tree.required?, Tree.string?, hamount]
  | fields =>
    simp [Decodes, Json.tree, Json.itemTrees, Coin.ofTree?, Tree.fields?, Tree.required?,
      Tree.string?, List.range_succ, hamount]

theorem Coins.Form.decodes {coins : List Coin} {v : Json} (form : Form coins v) :
    Decodes Coins.ofTree? coins v := by
  obtain ⟨each⟩ := form
  exact .list (each.imp fun _ _ h => h.decodes)

theorem Fee.Form.decodes {f : Fee} {v : Json} (form : f.Form v) : Decodes Fee.ofTree? f v := by
  have hgas := Fee.gas?_text f.gasLimit
  cases form with
  | members coins order =>
    have hcoins := coins.decodes
    rw [Decodes] at hcoins
    refine .record order (fun xs ys h => by simp only [Fee.ofTree?, Tree.fields?_perm h]) ?_
    simp [Decodes, Json.tree, Json.memberTrees, Fee.ofTree?, Tree.fields?, Tree.member?,
      Tree.required?, hgas, hcoins]
  | fields coins =>
    have hcoins := coins.decodes
    rw [Decodes] at hcoins
    simp [Decodes, Json.tree, Json.itemTrees, Fee.ofTree?, Tree.fields?, Tree.required?,
      List.range_succ, hgas, hcoins]

theorem Coin.form_toJson (c : Coin) : c.Form c.toJson := .members (.refl _)

theorem Coins.form_toJson (coins : List Coin) : Form coins (toJson coins) :=
  .items (forms_map Coin.form_toJson coins)

theorem Fee.form_toJson (f : Fee) : f.Form f.toJson :=
  .members (Coins.form_toJson f.amount) (.refl _)

/-- A budget is read if its gas and its coins are those of a payable fee. -/
theorem Fee.parse_eq_ok_iff {gas : UInt64} {s : String} {f : Fee} :
    Fee.parse gas s = .ok f ↔ f.gasLimit = gas ∧ Coins.parse s = .ok f.amount ∧ f.Payable := by
  unfold Fee.parse
  cases hcoins : Coins.parse s with
  | error e => simp
  | ok coins =>
    simp only [Except.ok.injEq]
    constructor
    · intro h
      split at h
      · cases h
      · rename_i hcheck
        cases h
        exact ⟨rfl, rfl, Fee.check_eq_ok_iff.mp hcheck⟩
    · rintro ⟨rfl, rfl, payable⟩
      have hcheck : Fee.check ⟨f.gasLimit, f.amount⟩ = .ok () := Fee.check_eq_ok_iff.mpr payable
      rw [hcheck]

theorem Fee.exists_parse_ok_iff {gas : UInt64} {s : String} :
    (∃ f, Fee.parse gas s = .ok f) ↔
      0 < gas ∧ ∃ coins, Coins.parse s = .ok coins ∧ coins ≠ [] ∧ ∀ c ∈ coins, 0 < c.amount := by
  constructor
  · rintro ⟨f, h⟩
    obtain ⟨rfl, hcoins, payable⟩ := Fee.parse_eq_ok_iff.mp h
    exact ⟨payable.gas, f.amount, hcoins, payable.paid, payable.positive⟩
  · rintro ⟨positive, coins, hcoins, some, all⟩
    exact ⟨⟨gas, coins⟩, Fee.parse_eq_ok_iff.mpr ⟨rfl, hcoins, positive, some, all⟩⟩

namespace Proofs

/-- What is written of a fee and of coins is one of their forms, and from every form they are read
back as they were. -/
structure ReadBackFromForms (f : Fee) (coins : List Coin) : Prop where
  fee_form : f.Form f.toJson
  fee : ∀ v, f.Form v → (Tree.ofText? v.text).bind Fee.ofTree? = some f
  coins_form : Coins.Form coins (Coins.toJson coins)
  coins : ∀ v, Coins.Form coins v → (Tree.ofText? v.text).bind Coins.ofTree? = some coins

/-- Fees and coins are read back from their JSON. A budget is read exactly from some gas and the text
of one or more positive coins, and is payable also after it was written and read. -/
theorem fee_codec (gas : UInt64) (s : String) (f : Fee) (coins : List Coin) :
    ReadBackFromForms f coins ∧
    ((∃ f, Fee.parse gas s = .ok f) ↔
      0 < gas ∧ ∃ coins, Coins.parse s = .ok coins ∧ coins ≠ [] ∧ ∀ c ∈ coins, 0 < c.amount) ∧
    (Fee.parse gas s = .ok f → f.gasLimit = gas ∧ Coins.parse s = .ok f.amount ∧
      ∃ f', (Tree.ofText? f.toJson.text).bind Fee.ofTree? = some f' ∧ f'.check = .ok () ∧
        f'.toJson.text = f.toJson.text) := by
  refine ⟨⟨f.form_toJson, fun v h => h.decodes.ofText, Coins.form_toJson coins,
    fun v h => h.decodes.ofText⟩, Fee.exists_parse_ok_iff, ?_⟩
  intro h
  obtain ⟨hgas, hcoins, payable⟩ := Fee.parse_eq_ok_iff.mp h
  exact ⟨hgas, hcoins, f, f.form_toJson.decodes.ofText, Fee.check_eq_ok_iff.mpr payable, rfl⟩

/-- A fee as the list of its fields, with a coin of no amount and a denomination of no grammar. -/
theorem fee_codec_positional :
    let f : Fee := ⟨7, [⟨0, "\"\n"⟩, ⟨12, "uusd"⟩]⟩
    let coins : Json := .arr [.arr [.str "\"\n", .str "0"],
      .obj [("denom", .str "uusd"), ("amount", .str "12")]]
    let v : Json := .arr [.str "7", coins]
    f.Form v ∧ (Tree.ofText? v.text).bind Fee.ofTree? = some f ∧
      (Tree.ofText? coins.text).bind Coins.ofTree? = some f.amount ∧
      Fee.parse 7 " 012uusd" = .ok ⟨7, [⟨12, "uusd"⟩]⟩ ∧
      ∃ f', (Tree.ofText? (Fee.toJson ⟨7, [⟨12, "uusd"⟩]⟩).text).bind Fee.ofTree? = some f' ∧
        f'.check = .ok () ∧ f'.toJson.text = (Fee.toJson ⟨7, [⟨12, "uusd"⟩]⟩).text := by
  intro f coins v
  have hcoins : Coins.Form f.amount coins :=
    .items (.cons .fields (.cons (.members (.swap _ _ _)) .nil))
  have hread : Fee.parse 7 " 012uusd" = .ok ⟨7, [⟨12, "uusd"⟩]⟩ := by decide +kernel
  obtain ⟨hback, _, _⟩ := fee_codec 7 " 012uusd" f f.amount
  obtain ⟨_, _, hchecked⟩ := (fee_codec 7 " 012uusd" ⟨7, [⟨12, "uusd"⟩]⟩ []).2.2 hread
  exact ⟨.fields hcoins, hback.fee v (.fields hcoins), hback.coins coins hcoins, hread, hchecked⟩

end Proofs

end TxDispatch
