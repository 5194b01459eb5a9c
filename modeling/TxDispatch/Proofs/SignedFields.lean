import TxDispatch.Envelope
import TxDispatch.Proofs.ReadBack

namespace TxDispatch

open Text

theorem Coins.toJson_isWhole (coins : List Coin) : (Coins.toJson coins).isWhole = true := by
  rw [Coins.toJson, Json.isWhole, Json.itemsWhole_eq_all, List.all_map]
  exact List.all_eq_true.mpr fun c _ => rfl

theorem Fee.toJson_isWhole (f : Fee) : f.toJson.isWhole = true := by
  simp [Fee.toJson, Json.isWhole, Json.membersWhole, Coins.toJson_isWhole]

namespace Operation

def isWhole : Operation → Bool
  | storeCode _ => true
  | instantiate _ msg _ _ => msg.isWhole
  | execute _ msg _ => msg.isWhole

def withoutAdmin : Operation → Operation
  | instantiate codeId msg _ coins => instantiate codeId msg false coins
  | op => op

theorem toMsg_isWhole (sender : String) (op : Operation) :
    (op.toMsg sender).isWhole = op.isWhole := by
  cases op <;>
    simp [toMsg, isWhole, Json.isWhole, Json.membersWhole, Coins.toJson_isWhole]

/-- Without a sender there is nobody to be the admin. -/
theorem toMsg_withoutAdmin (op : Operation) : op.withoutAdmin.toMsg "" = op.toMsg "" := by
  cases op <;> simp [toMsg, withoutAdmin]

/-- A message tells who sends it and all of the operation, but not the admin if the sender has no
name. -/
theorem toMsg_binds {s t : String} {x y : Operation} (h : x.toMsg s = y.toMsg t) :
    s = t ∧ x.withoutAdmin = y.withoutAdmin ∧ (s ≠ "" → x = y) := by
  cases x with
  | storeCode bytecode =>
    cases y with
    | storeCode bytecode' =>
      simp only [toMsg, Json.obj.injEq, List.cons.injEq, Prod.mk.injEq, Json.str.injEq, true_and,
        and_true] at h
      obtain ⟨rfl, hbytes⟩ := h
      obtain rfl := Base64.text_injective hbytes
      exact ⟨rfl, rfl, fun _ => rfl⟩
    | _ => simp [toMsg] at h
  | instantiate codeId msg migratable coins =>
    cases y with
    | instantiate codeId' msg' migratable' coins' =>
      simp only [toMsg, Json.obj.injEq, List.cons.injEq, Prod.mk.injEq, Json.str.injEq, true_and,
        and_true] at h
      obtain ⟨hadmin, hcode, hcoins, rfl, rfl⟩ := h
      obtain rfl := UInt64.toNat_inj.mp (Digits.text_injective hcode)
      obtain rfl := Coins.toJson_injective hcoins
      refine ⟨rfl, rfl, fun named => ?_⟩
      have hflag : migratable = migratable' := by
        cases migratable <;> cases migratable' <;> simp_all
      rw [hflag]
    | _ => simp [toMsg] at h
  | execute contract msg coins =>
    cases y with
    | execute contract' msg' coins' =>
      simp only [toMsg, Json.obj.injEq, List.cons.injEq, Prod.mk.injEq, Json.str.injEq, true_and,
        and_true] at h
      obtain ⟨hcoins, rfl, rfl, rfl⟩ := h
      obtain rfl := Coins.toJson_injective hcoins
      exact ⟨rfl, rfl, fun _ => rfl⟩
    | _ => simp [toMsg] at h

end Operation

namespace SignDoc

theorem toJson_injective {a b : SignDoc} (h : a.toJson = b.toJson) : a = b := by
  simp only [toJson, Json.obj.injEq, List.cons.injEq, Prod.mk.injEq, Json.str.injEq, true_and,
    and_true] at h
  obtain ⟨hnumber, hchain, hfee, hmemo, hmsgs, hsequence⟩ := h
  have hnumber := UInt64.toNat_inj.mp (Digits.text_injective hnumber)
  have hsequence := UInt64.toNat_inj.mp (Digits.text_injective hsequence)
  cases a
  cases b
  simp_all

/-- Documents whose numbers are whole are told apart by their bytes. -/
theorem bytes_injective {a b : SignDoc} (ha : a.toJson.isWhole = true)
    (hb : b.toJson.isWhole = true) (h : a.bytes = b.bytes) : a = b :=
  toJson_injective (Json.render_injective ha hb (Utf8.encode_injective h))

end SignDoc

namespace Proofs

/-- Envelopes for the same request in the same account state. The admin of a contract is part of the
request if there is a sender to be it. -/
structure SameRequest (a b : Envelope) : Prop where
  chainId : a.chainId = b.chainId
  accountNumber : a.accountNumber = b.accountNumber
  sequence : a.sequence = b.sequence
  fee : a.fee = b.fee
  memo : a.memo = b.memo
  sender : a.sender = b.sender
  withoutAdmin : a.operation.withoutAdmin = b.operation.withoutAdmin
  operation : a.sender ≠ "" → a.operation = b.operation

theorem signDoc_isWhole (e : Envelope) : e.signDoc.toJson.isWhole = e.operation.isWhole := by
  simp [Envelope.signDoc, SignDoc.toJson, Json.isWhole, Json.membersWhole, Json.itemsWhole,
    Fee.toJson_isWhole, Operation.toMsg_isWhole]

theorem SameRequest.toMsg {a b : Envelope} (h : SameRequest a b) :
    a.operation.toMsg a.sender = b.operation.toMsg b.sender := by
  rw [← h.sender]
  by_cases named : a.sender = ""
  · rw [named, ← Operation.toMsg_withoutAdmin, h.withoutAdmin, Operation.toMsg_withoutAdmin]
  · rw [h.operation named]

/-- Envelopes have the same signed bytes if and only if they are for the same request. -/
theorem signBytes_eq_iff {a b : Envelope} (ha : a.operation.isWhole = true)
    (hb : b.operation.isWhole = true) : a.signBytes = b.signBytes ↔ SameRequest a b := by
  constructor
  · intro h
    have hdoc := SignDoc.bytes_injective ((signDoc_isWhole a).trans ha)
      ((signDoc_isWhole b).trans hb) h
    simp only [Envelope.signDoc, SignDoc.mk.injEq, Json.str.injEq, Json.arr.injEq, List.cons.injEq,
      and_true] at hdoc
    obtain ⟨hnumber, hchain, hfee, hmemo, hmsg, hsequence⟩ := hdoc
    obtain ⟨hsender, hrequest, hoperation⟩ := Operation.toMsg_binds hmsg
    exact ⟨hchain, hnumber, hsequence, Fee.toJson_injective hfee, hmemo, hsender, hrequest,
      hoperation⟩
  · intro h
    have hdoc : a.signDoc = b.signDoc := by
      simp only [Envelope.signDoc, h.chainId, h.accountNumber, h.sequence, h.fee, h.memo, h.toMsg]
    rw [Envelope.signBytes, hdoc]
    rfl

def namelessEnvelope (migratable : Bool) (signature : List UInt8) : Envelope where
  sender := ""
  chainId := "columbus\"-5"
  accountNumber := 7
  sequence := 18446744073709551615
  operation := .instantiate 3 (.obj [("\\", .arr [.int (-1), .null])]) migratable [⟨5, "uusd"⟩]
  fee := ⟨1, [⟨0, "uluna"⟩, ⟨2, "uusd"⟩]⟩
  memo := "\n"
  publicKey := []
  signature

/-- Without a sender, whether a contract is to have an admin is not signed. -/
theorem signBytes_eq_nameless :
    (namelessEnvelope true [1]).operation.isWhole = true ∧
      (namelessEnvelope false [2]).operation.isWhole = true ∧
      (namelessEnvelope true [1]).signBytes = (namelessEnvelope false [2]).signBytes ∧
      SameRequest (namelessEnvelope true [1]) (namelessEnvelope false [2]) :=
  ⟨rfl, rfl, rfl, (signBytes_eq_iff rfl rfl).mp rfl⟩

end Proofs

end TxDispatch
