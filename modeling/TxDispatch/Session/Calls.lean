import TxDispatch.Session

namespace TxDispatch.Scene

open Text

variable {σ : Type}

def feeOr (fee : Option Fee) (setting : FeeSetting) : Except Failure Fee :=
  match fee with
  | some fee => .ok fee
  | none => setting.toFee.mapError FeeError.failure

def valueAt (target : Target) (s : Submission) : Except Failure String :=
  match s.value with
  | some v => .ok v
  | none => .error (.missingEvent s.txhash target.eventType target.attributeKey)

/-- A code id as an event tells it: digits that one plus sign may precede. -/
def codeId? (value : String) : Option UInt64 := do
  Digits.toWord64? (← Digits.readSigned? value.toList)

def deployCode (c : Client σ) (bytecode : List UInt8) (fee : Option Fee) (s : Scene σ) :
    Except Failure UInt64 × Scene σ :=
  match feeOr fee s.session.fees.storeCode with
  | .error f => (.error f, s)
  | .ok fee =>
    match submit c ⟨.storeCode bytecode, fee, some .codeId⟩ s with
    | (.error f, s) => (.error f, s)
    | (.ok done, s) =>
      match valueAt .codeId done with
      | .error f => (.error f, s)
      | .ok value =>
        match codeId? value with
        | some id => (.ok id, s)
        | none => (.error (.malformedValue done.txhash Target.codeId.attributeKey value), s)

def deployCodeFile (c : Client σ) (content : Except String (List UInt8)) (fee : Option Fee)
    (s : Scene σ) : Except Failure UInt64 × Scene σ :=
  match content with
  | .error text => (.error (.io text), s)
  | .ok bytecode => deployCode c bytecode fee s

def instantiate (c : Client σ) (codeId : UInt64) (msg : Json) (migratable : Bool)
    (fee : Option Fee) (s : Scene σ) : Except Failure String × Scene σ :=
  match feeOr fee s.session.fees.instantiate with
  | .error f => (.error f, s)
  | .ok fee =>
    match submit c ⟨.instantiate codeId msg migratable [], fee, some .contractAddress⟩ s with
    | (.error f, s) => (.error f, s)
    | (.ok done, s) => (valueAt .contractAddress done, s)

def invoke (c : Client σ) (contract : String) (msg : Json) (funds : List Coin) (fee : Option Fee)
    (s : Scene σ) : Except Failure String × Scene σ :=
  match feeOr fee s.session.fees.execute with
  | .error f => (.error f, s)
  | .ok fee =>
    match submit c ⟨.execute contract msg funds, fee, none⟩ s with
    | (.error f, s) => (.error f, s)
    | (.ok done, s) => (.ok done.txhash, s)

def withLedger {α : Type} (call : σ → α × σ) (s : Scene σ) : α × Scene σ :=
  ((call s.world.ledger).1,
    { s with world := { s.world with ledger := (call s.world.ledger).2 } })

/-- Asks a contract. No envelope is built, so a query does not wait for submissions. -/
def query (c : Client σ) (contract : String) (msg : Json) (s : Scene σ) :
    Except Failure Json × Scene σ :=
  s.withLedger (c.query contract msg)

def withWallet (f : Wallet → Wallet) (s : Scene σ) : Scene σ :=
  { s with session := { s.session with wallet := f s.session.wallet } }

/-- Broadcasts one envelope for an operation outside of any submission: the account is not looked
up, there is no deadline, and the wallet learns nothing from the answer. -/
def broadcastOnce (c : Client σ) (memo : String) (op : Operation) (fee : Fee) (s : Scene σ) :
    Except Failure Receipt × Scene σ :=
  match Envelope.build memo s.session.wallet op fee with
  | .error f => (.error f, s)
  | .ok e =>
    let pending := c.broadcast e s.world.ledger
    let world := { s.world with ledger := pending.answered, clock := s.world.clock + pending.wait }
    (pending.answer, { s with world })

theorem deployCode_scene (c : Client σ) (bytecode : List UInt8) (fee : Option Fee) (s : Scene σ) :
    (deployCode c bytecode fee s).2 =
      match feeOr fee s.session.fees.storeCode with
      | .error _ => s
      | .ok fee => (submit c ⟨.storeCode bytecode, fee, some .codeId⟩ s).2 := by
  unfold deployCode
  cases feeOr fee s.session.fees.storeCode with
  | error f => rfl
  | ok fee =>
    simp only
    split
    · rename_i h
      rw [h]
    · rename_i h
      rw [h]
      split
      · rfl
      · split <;> rfl

theorem instantiate_scene (c : Client σ) (codeId : UInt64) (msg : Json) (migratable : Bool)
    (fee : Option Fee) (s : Scene σ) :
    (instantiate c codeId msg migratable fee s).2 =
      match feeOr fee s.session.fees.instantiate with
      | .error _ => s
      | .ok fee =>
        (submit c ⟨.instantiate codeId msg migratable [], fee, some .contractAddress⟩ s).2 := by
  unfold instantiate
  cases feeOr fee s.session.fees.instantiate with
  | error f => rfl
  | ok fee =>
    simp only
    split <;> rename_i h <;> rw [h]

theorem invoke_scene (c : Client σ) (contract : String) (msg : Json) (funds : List Coin)
    (fee : Option Fee) (s : Scene σ) :
    (invoke c contract msg funds fee s).2 =
      match feeOr fee s.session.fees.execute with
      | .error _ => s
      | .ok fee => (submit c ⟨.execute contract msg funds, fee, none⟩ s).2 := by
  unfold invoke
  cases feeOr fee s.session.fees.execute with
  | error f => rfl
  | ok fee =>
    simp only
    split <;> rename_i h <;> rw [h]

end TxDispatch.Scene
