import TxDispatch.Coin

namespace TxDispatch

open Text

structure Fee where
  gasLimit : UInt64
  amount : List Coin
deriving DecidableEq, Repr

inductive FeeError where
  | coin (e : CoinError)
  | noGas
  | noCoins
  | zeroCoin (c : Coin)
deriving DecidableEq, Repr

def FeeError.message : FeeError → String
  | coin e => e.message
  | noGas => "gas limit must be positive"
  | noCoins => "fee amount is empty"
  | zeroCoin c => "fee coin " ++ c.text ++ " is zero"

namespace Fee

def check (f : Fee) : Except FeeError Unit :=
  if f.gasLimit = 0 then .error .noGas
  else if f.amount.isEmpty then .error .noCoins
  else match f.amount.find? fun c => c.amount = 0 with
    | some c => .error (.zeroCoin c)
    | none => .ok ()

structure Payable (f : Fee) : Prop where
  gas : 0 < f.gasLimit
  paid : f.amount ≠ []
  positive : ∀ c ∈ f.amount, 0 < c.amount

theorem check_eq_ok_iff {f : Fee} : f.check = .ok () ↔ f.Payable := by
  have hzero : ∀ a : BitVec 128, 0 < a ↔ a ≠ 0 := by grind
  constructor
  · intro h
    unfold check at h
    split at h
    · cases h
    · rename_i gas
      split at h
      · cases h
      · rename_i paid
        split at h
        · cases h
        · rename_i none
          refine ⟨UInt64.pos_iff_ne_zero.mpr gas, by simpa using paid, ?_⟩
          intro c hc
          have hpositive := List.find?_eq_none.mp none c hc
          exact (hzero c.amount).mpr (by simpa using hpositive)
  · rintro ⟨gas, paid, positive⟩
    have hnone : f.amount.find? (fun c => c.amount = 0) = none := by
      rw [List.find?_eq_none]
      intro c hc
      simpa using (hzero c.amount).mp (positive c hc)
    have hsome : f.amount.isEmpty = false := by simpa using paid
    rw [check, if_neg (UInt64.pos_iff_ne_zero.mp gas), hsome, hnone]
    rfl

def parse (gasLimit : UInt64) (amount : String) : Except FeeError Fee :=
  match Coins.parse amount with
  | .error e => .error (.coin e)
  | .ok coins =>
    match check ⟨gasLimit, coins⟩ with
    | .error e => .error e
    | .ok () => .ok ⟨gasLimit, coins⟩

def toJson (f : Fee) : Json :=
  .obj [("amount", Coins.toJson f.amount), ("gas", .str (Digits.text f.gasLimit.toNat))]

theorem toJson_injective {a b : Fee} (h : a.toJson = b.toJson) : a = b := by
  simp only [toJson, Json.obj.injEq, List.cons.injEq, Prod.mk.injEq, Json.str.injEq, true_and,
    and_true] at h
  obtain ⟨hamount, hgas⟩ := h
  have hcoins := Coins.toJson_injective hamount
  have hnat := UInt64.toNat_inj.mp (Digits.text_injective hgas)
  cases a
  cases b
  simp_all

/-- A gas limit as text: digits that one plus sign may precede. -/
def gas? (t : Json.Tree) : Option UInt64 := do
  Digits.toWord64? (← Digits.readSigned? (← t.string?).toList)

def ofTree? (t : Json.Tree) : Option Fee := do
  match ← t.fields? false ["gas", "amount"] with
  | [gas, amount] =>
    let gas ← Json.Tree.required? gas? gas
    let amount ← Json.Tree.required? Coins.ofTree? amount
    return ⟨gas, amount⟩
  | _ => none

theorem parse_check {gas : UInt64} {s : String} {f : Fee} (h : parse gas s = .ok f) :
    f.check = .ok () := by
  unfold parse at h
  split at h
  · cases h
  · split at h
    · cases h
    · rename_i hc
      cases h
      exact hc

end Fee

end TxDispatch
