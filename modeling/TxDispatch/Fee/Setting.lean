import TxDispatch.Operation

namespace TxDispatch

/-- A gas limit and a compact coin list, unchecked. -/
structure FeeSetting where
  gasLimit : UInt64
  amount : String
deriving DecidableEq, Repr

def FeeSetting.toFee (s : FeeSetting) : Except FeeError Fee := Fee.parse s.gasLimit s.amount

structure FeeSettings where
  storeCode : FeeSetting := ⟨10000000, "20000000uusd"⟩
  instantiate : FeeSetting := ⟨5000000, "1000000uusd"⟩
  execute : FeeSetting := ⟨5000000, "1000000uusd"⟩
deriving DecidableEq, Repr

def FeeSettings.forKind (s : FeeSettings) : Operation.Kind → FeeSetting
  | .storeCode => s.storeCode
  | .instantiate => s.instantiate
  | .execute => s.execute

end TxDispatch
