import TxDispatch.Operation
import TxDispatch.Wallet

namespace TxDispatch

open Text Crypto

/-- What a signature covers: one message with the account state, the fee, the memo and the chain. -/
structure SignDoc where
  accountNumber : UInt64
  chainId : String
  fee : Json
  memo : Json
  msgs : Json
  sequence : UInt64

namespace SignDoc

def toJson (d : SignDoc) : Json :=
  .obj [("account_number", .str (Digits.text d.accountNumber.toNat)), ("chain_id", .str d.chainId),
    ("fee", d.fee), ("memo", d.memo), ("msgs", d.msgs),
    ("sequence", .str (Digits.text d.sequence.toNat))]

def bytes (d : SignDoc) : List UInt8 := Utf8.encode d.toJson.render

end SignDoc

structure Envelope where
  sender : String
  chainId : String
  accountNumber : UInt64
  sequence : UInt64
  operation : Operation
  fee : Fee
  memo : String
  publicKey : List UInt8
  signature : List UInt8

namespace Envelope

def document (w : Wallet) (memo : String) (op : Operation) (fee : Fee) : SignDoc where
  accountNumber := w.accountNumber
  chainId := w.chainId
  fee := fee.toJson
  memo := .str memo
  msgs := .arr [op.toMsg w.account]
  sequence := w.sequence

/-- Checks the fee and then the operation, and signs them with the wallet's account state. -/
def build (memo : String) (w : Wallet) (op : Operation) (fee : Fee) : Except Failure Envelope :=
  match fee.check with
  | .error e => .error e.failure
  | .ok () =>
    match op.check with
    | .error e => .error e.failure
    | .ok () => .ok {
        sender := w.account
        chainId := w.chainId
        accountNumber := w.accountNumber
        sequence := w.sequence
        operation := op
        fee := fee
        memo := memo
        publicKey := w.key.publicKey
        signature := w.key.sign (Keccak.hash256 (document w memo op fee).bytes) }

def signDoc (e : Envelope) : SignDoc where
  accountNumber := e.accountNumber
  chainId := e.chainId
  fee := e.fee.toJson
  memo := .str e.memo
  msgs := .arr [e.operation.toMsg e.sender]
  sequence := e.sequence

def signBytes (e : Envelope) : List UInt8 := e.signDoc.bytes

def toWire (e : Envelope) : Json :=
  .obj [("fee", e.fee.toJson), ("memo", .str e.memo),
    ("msg", .arr [e.operation.toMsg e.sender]),
    ("signatures", .arr [.obj [
      ("account_number", .str (Digits.text e.accountNumber.toNat)),
      ("pub_key", .obj [("type", .str "tendermint/PubKeySecp256k1"),
        ("value", .str (Base64.text e.publicKey))]),
      ("sequence", .str (Digits.text e.sequence.toNat)),
      ("signature", .str (Base64.text e.signature))]])]

theorem build_eq_ok {memo : String} {w : Wallet} {op : Operation} {fee : Fee} {e : Envelope}
    (h : build memo w op fee = .ok e) : e.sequence = w.sequence ∧ e.operation = op := by
  unfold build at h
  split at h
  · cases h
  · split at h
    · cases h
    · cases h
      exact ⟨rfl, rfl⟩

theorem build_sequence {memo : String} {w : Wallet} {op : Operation} {fee : Fee} {e : Envelope}
    (h : build memo w op fee = .ok e) : e.sequence = w.sequence :=
  (build_eq_ok h).1

end Envelope

end TxDispatch
