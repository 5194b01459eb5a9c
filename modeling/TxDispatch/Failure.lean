import TxDispatch.Fee

namespace TxDispatch

open Text

/-- Why a call did not give its result. A ledger client may report any of them, so the reasons are
texts; the library's own reasons come from its error types through `FeeError.failure` and the like. -/
inductive Failure where
  /-- The gateway could not be reached or did not answer as it should. -/
  | rpc (text : String)
  /-- A request or a broadcast outlasted its deadline. -/
  | timeout (secs : UInt64)
  /-- The ledger processed the transaction and reported a code other than zero. -/
  | rejected (operation : String) (code : UInt32) (codespace rawLog txhash : String)
  /-- A successful transaction did not emit the attribute that was asked for. -/
  | missingEvent (txhash eventType attributeKey : String)
  /-- The attribute was there and could not be made sense of. -/
  | malformedValue (txhash attributeKey value : String)
  /-- Every broadcast of the budget ended in a sequence conflict. -/
  | retryExhausted (attempts : UInt32)
  | invalidOperation (text : String)
  | invalidFee (text : String)
  | wallet (text : String)
  /-- The gateway serves another chain than the configured one. -/
  | chainMismatch (expected actual : String)
  /-- A local file could not be read. -/
  | io (text : String)
deriving DecidableEq, Repr

namespace Failure

def message : Failure → String
  | rpc text => "RPC error: " ++ text
  | timeout secs => "RPC timeout after " ++ Digits.text secs.toNat ++ " seconds"
  | rejected operation code codespace rawLog _ =>
    operation ++ " failed. code: " ++ Digits.text code.toNat ++ ", codespace: " ++ codespace ++
      ", raw_log: " ++ rawLog
  | missingEvent txhash eventType attributeKey =>
    "transaction " ++ txhash ++ " has no `" ++ attributeKey ++ "` attribute in any `" ++ eventType ++
      "` event"
  | malformedValue txhash attributeKey value =>
    "transaction " ++ txhash ++ " emitted malformed `" ++ attributeKey ++ "` value " ++
      Quoted.quote value
  | retryExhausted attempts =>
    "sequence conflict persisted after " ++ Digits.text attempts.toNat ++ " attempts"
  | invalidOperation text => "Invalid operation: " ++ text
  | invalidFee text => "Invalid fee: " ++ text
  | wallet text => "Wallet error: " ++ text
  | chainMismatch expected actual => "Chain ID mismatch: expected " ++ expected ++ ", got " ++ actual
  | io text => "IO error: " ++ text

def isTransport : Failure → Bool
  | rpc _ => true
  | timeout _ => true
  | _ => false

end Failure

def FeeError.failure (e : FeeError) : Failure := .invalidFee e.message

def CoinError.failure (e : CoinError) : Failure := .invalidFee e.message

end TxDispatch
