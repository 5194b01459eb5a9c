import TxDispatch.Failure
import TxDispatch.Text.Base64

namespace TxDispatch

open Text

inductive Operation where
  /-- Upload contract code. -/
  | storeCode (bytecode : List UInt8)
  /-- Create a contract from uploaded code; if it is migratable, the sender is its admin. -/
  | instantiate (codeId : UInt64) (msg : Json) (migratable : Bool) (coins : List Coin)
  /-- Call a contract, with coins attached. -/
  | execute (contract : String) (msg : Json) (coins : List Coin)

inductive Operation.Kind where
  | storeCode
  | instantiate
  | execute
deriving DecidableEq, Repr

def Operation.Kind.label : Operation.Kind → String
  | storeCode => "store code"
  | instantiate => "instantiate"
  | execute => "execute"

theorem Operation.Kind.forall_iff {p : Operation.Kind → Prop} :
    (∀ kind, p kind) ↔ p .storeCode ∧ p .instantiate ∧ p .execute := by
  constructor
  · intro h
    exact ⟨h _, h _, h _⟩
  · rintro ⟨hstore, hinstantiate, hexecute⟩ kind
    cases kind <;> assumption

inductive OperationError where
  | emptyBytecode
  | zeroCodeId
  | emptyContract
  /-- The message of the named field is not an object but a value of the named kind. -/
  | notObject (field kind : String)
deriving DecidableEq, Repr

def OperationError.message : OperationError → String
  | emptyBytecode => "bytecode is empty"
  | zeroCodeId => "code id must be positive"
  | emptyContract => "contract address is empty"
  | notObject field kind => field ++ " must be a JSON object, got " ++ kind

def OperationError.failure (e : OperationError) : Failure := .invalidOperation e.message

namespace Operation

def kind : Operation → Kind
  | storeCode _ => .storeCode
  | instantiate _ _ _ _ => .instantiate
  | execute _ _ _ => .execute

def requireObject (field : String) : Json → Except OperationError Unit
  | .obj _ => .ok ()
  | v => .error (.notObject field v.kindName)

def check : Operation → Except OperationError Unit
  | storeCode bytecode => if bytecode.isEmpty then .error .emptyBytecode else .ok ()
  | instantiate codeId msg _ _ =>
    if codeId = 0 then .error .zeroCodeId else requireObject "init_msg" msg
  | execute contract msg _ =>
    if isBlank contract then .error .emptyContract else requireObject "execute_msg" msg

def WellFormed : Operation → Prop
  | storeCode bytecode => bytecode ≠ []
  | instantiate codeId msg _ _ => 0 < codeId ∧ ∃ members, msg = .obj members
  | execute contract msg _ =>
    (∃ c ∈ contract.toList, isBlankChar c = false) ∧ ∃ members, msg = .obj members

def toMsg (sender : String) : Operation → Json
  | storeCode bytecode =>
    .obj [("type", .str "wasm/MsgStoreCode"),
      ("value", .obj [("sender", .str sender), ("wasm_byte_code", .str (Base64.text bytecode))])]
  | instantiate codeId msg migratable coins =>
    .obj [("type", .str "wasm/MsgInstantiateContract"),
      ("value", .obj [("admin", .str (if migratable then sender else "")),
        ("code_id", .str (Digits.text codeId.toNat)), ("init_coins", Coins.toJson coins),
        ("init_msg", msg), ("sender", .str sender)])]
  | execute contract msg coins =>
    .obj [("type", .str "wasm/MsgExecuteContract"),
      ("value", .obj [("coins", Coins.toJson coins), ("contract", .str contract),
        ("execute_msg", msg), ("sender", .str sender)])]

theorem requireObject_eq_ok_iff (field : String) {v : Json} :
    requireObject field v = .ok () ↔ ∃ members, v = .obj members := by
  cases v <;> simp [requireObject]

theorem check_eq_ok_iff {op : Operation} : op.check = .ok () ↔ op.WellFormed := by
  cases op with
  | storeCode bytecode => simp [check, WellFormed]
  | instantiate codeId msg migratable coins =>
    rw [WellFormed, UInt64.pos_iff_ne_zero, ← requireObject_eq_ok_iff "init_msg"]
    by_cases h : codeId = 0 <;> simp [check, h]
  | execute contract msg coins =>
    have hblank : isBlank contract = false ↔ ∃ c ∈ contract.toList, isBlankChar c = false := by
      rw [isBlank, List.all_eq_false]
      simp
    rw [WellFormed, ← hblank, ← requireObject_eq_ok_iff "execute_msg"]
    by_cases h : isBlank contract = true <;> simp [check, h]

end Operation

end TxDispatch
