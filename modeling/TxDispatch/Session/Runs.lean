import TxDispatch.Session.Calls

namespace TxDispatch

inductive Call where
  | submit (order : Order)
  | deployCode (bytecode : List UInt8) (fee : Option Fee)
  | deployCodeFile (content : Except String (List UInt8)) (fee : Option Fee)
  | instantiate (codeId : UInt64) (msg : Json) (migratable : Bool) (fee : Option Fee)
  | invoke (contract : String) (msg : Json) (funds : List Coin) (fee : Option Fee)
  | query (contract : String) (msg : Json)

namespace Call

variable {σ : Type}

def run (c : Client σ) : Call → Scene σ → Scene σ
  | submit order, s => (s.submit c order).2
  | deployCode bytecode fee, s => (s.deployCode c bytecode fee).2
  | deployCodeFile content fee, s => (s.deployCodeFile c content fee).2
  | instantiate codeId msg migratable fee, s => (s.instantiate c codeId msg migratable fee).2
  | invoke contract msg funds fee, s => (s.invoke c contract msg funds fee).2
  | query contract msg, s => (s.query c contract msg).2

def runAll (c : Client σ) (calls : List Call) (s : Scene σ) : Scene σ :=
  calls.foldl (fun t x => x.run c t) s

/-- What every call does to a scene, a run does, if it is something that adds up. -/
theorem runAll_induction {c : Client σ} {R : Scene σ → Scene σ → Prop} (refl : ∀ s, R s s)
    (trans : ∀ s t u, R s t → R t u → R s u) (step : ∀ x s, R s (run c x s)) (calls : List Call)
    (s : Scene σ) : R s (runAll c calls s) := by
  induction calls generalizing s with
  | nil => exact refl s
  | cons x calls ih => exact trans s (run c x s) _ (step x s) (ih (run c x s))

def upload (fees : FeeSettings) (bytecode : List UInt8) (fee : Option Fee) : Except Failure Order :=
  (Scene.feeOr fee fees.storeCode).map fun fee => ⟨.storeCode bytecode, fee, some .codeId⟩

/-- The order that a call submits with the session's fees, or why it comes to nothing. A query submits
none. -/
def order (fees : FeeSettings) : Call → Option (Except Failure Order)
  | submit order => some (.ok order)
  | deployCode bytecode fee => some (upload fees bytecode fee)
  | deployCodeFile (.error text) _ => some (.error (.io text))
  | deployCodeFile (.ok bytecode) fee => some (upload fees bytecode fee)
  | instantiate codeId msg migratable fee =>
    some ((Scene.feeOr fee fees.instantiate).map fun fee =>
      ⟨.instantiate codeId msg migratable [], fee, some .contractAddress⟩)
  | invoke contract msg funds fee =>
    some ((Scene.feeOr fee fees.execute).map fun fee => ⟨.execute contract msg funds, fee, none⟩)
  | query _ _ => none

theorem order_eq_none_iff {fees : FeeSettings} {x : Call} :
    x.order fees = none ↔ ∃ contract msg, x = .query contract msg := by
  cases x with
  | deployCodeFile content fee => cases content <;> simp [order]
  | _ => simp [order]

def unpriced : Call → Option Operation.Kind
  | deployCode _ none => some .storeCode
  | deployCodeFile _ none => some .storeCode
  | instantiate _ _ _ none => some .instantiate
  | invoke _ _ _ none => some .execute
  | _ => none

theorem map_feeOr_eq_ok {setting : FeeSetting} {make : Fee → Order} {order : Order}
    (h : (Scene.feeOr none setting).map make = .ok order) :
    ∃ fee, setting.toFee = .ok fee ∧ make fee = order := by
  unfold Scene.feeOr at h
  cases hfee : setting.toFee with
  | error e =>
    rw [hfee] at h
    cases h
  | ok fee =>
    rw [hfee] at h
    exact ⟨fee, rfl, Except.ok.inj h⟩

/-- A call that names no fee pays the session's for its own kind of operation. -/
theorem order_unpriced {fees : FeeSettings} {x : Call} {kind : Operation.Kind} {order : Order}
    (unpriced : x.unpriced = some kind) (h : x.order fees = some (.ok order)) :
    order.operation.kind = kind ∧ (fees.forKind kind).toFee = .ok order.fee := by
  unfold Call.unpriced at unpriced
  split at unpriced
  · cases unpriced
    obtain ⟨fee, hfee, rfl⟩ := map_feeOr_eq_ok (Option.some.inj h)
    exact ⟨rfl, hfee⟩
  · rename_i content
    cases unpriced
    cases content with
    | error text => simp [Call.order] at h
    | ok bytecode =>
      obtain ⟨fee, hfee, rfl⟩ := map_feeOr_eq_ok (Option.some.inj h)
      exact ⟨rfl, hfee⟩
  · cases unpriced
    obtain ⟨fee, hfee, rfl⟩ := map_feeOr_eq_ok (Option.some.inj h)
    exact ⟨rfl, hfee⟩
  · cases unpriced
    obtain ⟨fee, hfee, rfl⟩ := map_feeOr_eq_ok (Option.some.inj h)
    exact ⟨rfl, hfee⟩
  · cases unpriced

/-- The kind of operation of a call for a transaction, and the fee that the caller names. -/
def asked : Call → Option (Operation.Kind × Option Fee)
  | deployCode _ fee => some (.storeCode, fee)
  | instantiate _ _ _ fee => some (.instantiate, fee)
  | invoke _ _ _ fee => some (.execute, fee)
  | _ => none

/-- A call for a transaction submits an order of its kind as soon as there is a fee, and asks for a
value unless it calls a contract. -/
theorem order_asked {x : Call} {kind : Operation.Kind} {fee : Option Fee}
    (asked : x.asked = some (kind, fee)) (fees : FeeSettings) :
    ∃ make : Fee → Order,
      (∀ paid, (make paid).operation.kind = kind ∧
        (kind ≠ .execute → (make paid).target.isSome = true)) ∧
      x.order fees = some ((Scene.feeOr fee (fees.forKind kind)).map make) := by
  cases x with
  | deployCode bytecode fee =>
    cases asked
    exact ⟨_, fun _ => ⟨rfl, fun _ => rfl⟩, rfl⟩
  | instantiate codeId msg migratable fee =>
    cases asked
    exact ⟨_, fun _ => ⟨rfl, fun _ => rfl⟩, rfl⟩
  | invoke contract msg funds fee =>
    cases asked
    exact ⟨_, fun _ => ⟨rfl, fun h => absurd rfl h⟩, rfl⟩
  | submit _ => cases asked
  | deployCodeFile _ _ => cases asked
  | query _ _ => cases asked

/-- With a fee for every kind of operation a call comes to nothing only for a file that is not read. -/
theorem order_error {fees : FeeSettings} {x : Call} {f : Failure}
    (paid : ∀ kind, ∃ fee, (fees.forKind kind).toFee = .ok fee)
    (h : x.order fees = some (.error f)) : ∃ text, f = .io text := by
  have hpaid : ∀ (fee : Option Fee) (kind : Operation.Kind) (make : Fee → Order),
      (Scene.feeOr fee (fees.forKind kind)).map make ≠ .error f := by
    intro fee kind make hrefused
    obtain ⟨own, hown⟩ := paid kind
    unfold Scene.feeOr at hrefused
    rw [hown] at hrefused
    cases fee <;> cases hrefused
  cases x with
  | submit asked => cases h
  | query contract msg => cases h
  | deployCode bytecode fee => exact absurd (Option.some.inj h) (hpaid fee .storeCode _)
  | deployCodeFile content fee =>
    cases content with
    | error text => exact ⟨text, (Except.error.inj (Option.some.inj h)).symm⟩
    | ok bytecode => exact absurd (Option.some.inj h) (hpaid fee .storeCode _)
  | instantiate codeId msg migratable fee =>
    exact absurd (Option.some.inj h) (hpaid fee .instantiate _)
  | invoke contract msg funds fee => exact absurd (Option.some.inj h) (hpaid fee .execute _)

/-- A call does what its order does, and nothing if it has none; a query changes the ledger alone. -/
theorem run_eq (c : Client σ) (x : Call) (s : Scene σ) :
    x.run c s =
      match x.order s.session.fees with
      | some (.ok order) => (s.submit c order).2
      | some (.error _) => s
      | none => { s with world := { s.world with ledger := (x.run c s).world.ledger } } := by
  cases x with
  | submit order => rfl
  | query contract msg => rfl
  | deployCode bytecode fee =>
    rw [run, Scene.deployCode_scene, order, upload]
    cases Scene.feeOr fee s.session.fees.storeCode <;> rfl
  | deployCodeFile content fee =>
    cases content with
    | error text => rfl
    | ok bytecode =>
      rw [run, Scene.deployCodeFile, Scene.deployCode_scene, order, upload]
      cases Scene.feeOr fee s.session.fees.storeCode <;> rfl
  | instantiate codeId msg migratable fee =>
    rw [run, Scene.instantiate_scene, order]
    cases Scene.feeOr fee s.session.fees.instantiate <;> rfl
  | invoke contract msg funds fee =>
    rw [run, Scene.invoke_scene, order]
    cases Scene.feeOr fee s.session.fees.execute <;> rfl

/-- A call submits one order, or asks a contract, or comes to nothing. -/
theorem run_shape (c : Client σ) (x : Call) (s : Scene σ) :
    (∃ order, x.run c s = (s.submit c order).2) ∨
      (∃ contract msg, x.run c s = (s.query c contract msg).2) ∨ x.run c s = s := by
  cases h : x.order s.session.fees with
  | none =>
    obtain ⟨contract, msg, rfl⟩ := order_eq_none_iff.mp h
    exact .inr (.inl ⟨contract, msg, rfl⟩)
  | some order =>
    rw [run_eq, h]
    cases order with
    | error f => exact .inr (.inr rfl)
    | ok order => exact .inl ⟨order, rfl⟩

def failureOf {α : Type} : Except Failure α → Option Failure
  | .ok _ => none
  | .error f => some f

theorem failureOf_eq_some_iff {α : Type} {result : Except Failure α} {f : Failure} :
    failureOf result = some f ↔ result = .error f := by
  cases result <;> simp [failureOf]

def failure? (c : Client σ) : Call → Scene σ → Option Failure
  | submit order, s => failureOf (s.submit c order).1
  | deployCode bytecode fee, s => failureOf (s.deployCode c bytecode fee).1
  | deployCodeFile content fee, s => failureOf (s.deployCodeFile c content fee).1
  | instantiate codeId msg migratable fee, s =>
    failureOf (s.instantiate c codeId msg migratable fee).1
  | invoke contract msg funds fee, s => failureOf (s.invoke c contract msg funds fee).1
  | query contract msg, s => failureOf (s.query c contract msg).1

def codeFlaw (done : Submission) : Option Failure :=
  match Scene.valueAt .codeId done with
  | .error f => some f
  | .ok value =>
    match Scene.codeId? value with
    | some _ => none
    | none => some (.malformedValue done.txhash Target.codeId.attributeKey value)

def flaw : Call → Submission → Option Failure
  | deployCode _ _, done => codeFlaw done
  | deployCodeFile _ _, done => codeFlaw done
  | instantiate _ _ _ _, done => failureOf (Scene.valueAt .contractAddress done)
  | _, _ => none

theorem valueAt_error {target : Target} {done : Submission} {f : Failure}
    (h : Scene.valueAt target done = .error f) :
    f = .missingEvent done.txhash target.eventType target.attributeKey := by
  unfold Scene.valueAt at h
  split at h
  · cases h
  · exact (Except.error.inj h).symm

theorem flaw_shape {x : Call} {done : Submission} {f : Failure} (h : x.flaw done = some f) :
    (∃ txhash eventType key, f = .missingEvent txhash eventType key) ∨
      ∃ txhash key value, f = .malformedValue txhash key value := by
  have hcode : codeFlaw done = some f → (∃ txhash eventType key,
      f = .missingEvent txhash eventType key) ∨
        ∃ txhash key value, f = .malformedValue txhash key value := by
    intro hflaw
    unfold codeFlaw at hflaw
    split at hflaw
    · rename_i hvalue
      cases hflaw
      exact .inl ⟨_, _, _, valueAt_error hvalue⟩
    · split at hflaw
      · cases hflaw
      · exact .inr ⟨_, _, _, (Option.some.inj hflaw).symm⟩
  cases x with
  | deployCode _ _ => exact hcode h
  | deployCodeFile _ _ => exact hcode h
  | instantiate _ _ _ _ =>
    exact .inl ⟨_, _, _, valueAt_error (failureOf_eq_some_iff.mp h)⟩
  | submit _ => cases h
  | invoke _ _ _ _ => cases h
  | query _ _ => cases h

/-- With the value that was asked for only an upload may be dissatisfied: the value may be no id. -/
theorem flaw_asked {x : Call} {kind : Operation.Kind} {fee : Option Fee}
    (asked : x.asked = some (kind, fee)) {done : Submission}
    (found : kind ≠ .execute → done.value.isSome = true) {f : Failure} (h : x.flaw done = some f) :
    kind = .storeCode ∧ ∃ value, done.value = some value ∧ Scene.codeId? value = none ∧
      f = .malformedValue done.txhash Target.codeId.attributeKey value := by
  have hvalue : ∀ target, kind ≠ .execute →
      ∃ value, done.value = some value ∧ Scene.valueAt target done = .ok value := by
    intro target hkind
    obtain ⟨value, hsome⟩ := Option.isSome_iff_exists.mp (found hkind)
    exact ⟨value, hsome, by rw [Scene.valueAt, hsome]⟩
  cases x with
  | deployCode bytecode fee =>
    cases asked
    obtain ⟨value, hsome, hat⟩ := hvalue .codeId (by decide)
    simp only [flaw, codeFlaw, hat] at h
    split at h
    · cases h
    · rename_i hid
      exact ⟨rfl, value, hsome, hid, (Option.some.inj h).symm⟩
  | instantiate codeId msg migratable fee =>
    cases asked
    obtain ⟨value, _, hat⟩ := hvalue .contractAddress (by decide)
    simp [flaw, hat, failureOf] at h
  | invoke contract msg funds fee => cases h
  | submit _ => cases h
  | query _ _ => cases h
  | deployCodeFile _ _ => cases asked

theorem failureOf_deployCode (c : Client σ) (bytecode : List UInt8) (fee : Option Fee)
    (s : Scene σ) :
    failureOf (s.deployCode c bytecode fee).1 =
      match upload s.session.fees bytecode fee with
      | .error f => some f
      | .ok order =>
        match (s.submit c order).1 with
        | .error f => some f
        | .ok done => codeFlaw done := by
  unfold Scene.deployCode upload
  cases Scene.feeOr fee s.session.fees.storeCode with
  | error f => rfl
  | ok fee =>
    simp only [Except.map]
    obtain ⟨result, t⟩ := s.submit c ⟨.storeCode bytecode, fee, some .codeId⟩
    cases result with
    | error f => rfl
    | ok done =>
      simp only [codeFlaw]
      cases Scene.valueAt .codeId done with
      | error f => rfl
      | ok value =>
        simp only
        cases Scene.codeId? value <;> rfl

/-- A call fails without an order, or with its submission, or with what that gave. -/
theorem failure?_eq (c : Client σ) (x : Call) (s : Scene σ) :
    x.failure? c s =
      match x.order s.session.fees with
      | some (.error f) => some f
      | some (.ok order) =>
        match (s.submit c order).1 with
        | .error f => some f
        | .ok done => x.flaw done
      | none => x.failure? c s := by
  cases x with
  | submit order =>
    simp only [failure?, Call.order, flaw]
    cases (s.submit c order).1 <;> rfl
  | query contract msg => rfl
  | deployCode bytecode fee =>
    simp only [failure?, Call.order, failureOf_deployCode, flaw]
    cases upload s.session.fees bytecode fee <;> rfl
  | deployCodeFile content fee =>
    cases content with
    | error text => rfl
    | ok bytecode =>
      simp only [failure?, Call.order, Scene.deployCodeFile, failureOf_deployCode, flaw]
      cases upload s.session.fees bytecode fee <;> rfl
  | instantiate codeId msg migratable fee =>
    simp only [failure?, Call.order, Scene.instantiate, flaw]
    cases Scene.feeOr fee s.session.fees.instantiate with
    | error f => rfl
    | ok fee =>
      simp only [Except.map]
      obtain ⟨result, t⟩ := s.submit c
        ⟨.instantiate codeId msg migratable [], fee, some .contractAddress⟩
      cases result <;> rfl
  | invoke contract msg funds fee =>
    simp only [failure?, Call.order, Scene.invoke, flaw]
    cases Scene.feeOr fee s.session.fees.execute with
    | error f => rfl
    | ok fee =>
      simp only [Except.map]
      obtain ⟨result, t⟩ := s.submit c ⟨.execute contract msg funds, fee, none⟩
      cases result <;> rfl

end Call

end TxDispatch
