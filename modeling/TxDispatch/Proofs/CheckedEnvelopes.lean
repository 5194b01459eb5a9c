import TxDispatch.Proofs.FreshSequences
import TxDispatch.Proofs.Rebroadcasts
import TxDispatch.Session.Runs

namespace TxDispatch.Proofs

open Scene

variable {σ : Type}

/-- A client with a record of the envelopes that it was handed, the oldest first, whether or not the
caller waited for the answer. -/
def recorded (c : Client σ) : Client (σ × List Envelope) where
  broadcast e l :=
    let pending := c.broadcast e l.1
    ⟨pending.wait, pending.answer, (pending.answered, l.2 ++ [e]), (pending.dropped, l.2 ++ [e])⟩
  account address l := ((c.account address l.1).1, ((c.account address l.1).2, l.2))
  chainId l := ((c.chainId l.1).1, ((c.chainId l.1).2, l.2))
  query contract msg l := ((c.query contract msg l.1).1, ((c.query contract msg l.1).2, l.2))

theorem answered_recorded (c : Client σ) (secs : UInt64) (e : Envelope) (l : σ × List Envelope) :
    (answered (recorded c) secs e l).2.2 = l.2 ++ [e] := by
  unfold answered
  split <;> rfl

theorem Dealt.recorded {c : Client σ} {address : String} {secs : UInt64} {l l' : σ × List Envelope}
    {heard : List Contact} (h : Dealt (recorded c) address secs l heard l') :
    l'.2 = l.2 ++ envelopes heard := by
  induction h with
  | done => exact (List.append_nil _).symm
  | looked _ ih => exact ih
  | sent _ ih => rw [ih, answered_recorded, List.append_assoc, envelopes_sent, List.singleton_append]
  | rested _ ih => exact ih

structure Checked (e : Envelope) : Prop where
  fee : e.fee.Payable
  operation : e.operation.WellFormed

theorem sealed_checked {s : Session} {order : Order} {n : Counters} {e : Envelope}
    (h : sealed s order n = .ok e) : Checked e := by
  obtain ⟨hfee, hoperation⟩ := sealed_eq_ok_iff.mp ⟨e, h⟩
  have hsigned := sealed_signedFor h
  rw [← hsigned.fee] at hfee
  rw [← hsigned.operation] at hoperation
  exact ⟨Fee.check_eq_ok_iff.mp hfee, Operation.check_eq_ok_iff.mp hoperation⟩

/-- Every envelope of a submission is checked, in the first round and after every conflict. -/
theorem Course.checked {c : Client σ} {s : Session} {order : Order} {k : Nat} {n n' : Counters}
    {l l' : σ} {heard : List Contact} {result : Except Failure Submission}
    (h : Course c s order k n l heard result n' l') : ∀ e ∈ envelopes heard, Checked e := by
  intro e he
  obtain ⟨m, hsealed⟩ := h.signed e he
  exact sealed_checked hsealed

def ChecksAll (s t : Scene (σ × List Envelope)) : Prop :=
  ∃ sent, t.world.ledger.2 = s.world.ledger.2 ++ sent ∧ ∀ e ∈ sent, Checked e

theorem ChecksAll.refl (s : Scene (σ × List Envelope)) : ChecksAll s s :=
  ⟨[], (List.append_nil _).symm, by simp⟩

theorem ChecksAll.trans {s t u : Scene (σ × List Envelope)} (h : ChecksAll s t)
    (h' : ChecksAll t u) : ChecksAll s u := by
  obtain ⟨first, hfirst, hchecked⟩ := h
  obtain ⟨rest, hrest, hchecked'⟩ := h'
  refine ⟨first ++ rest, by rw [hrest, hfirst, List.append_assoc], ?_⟩
  intro e he
  rcases List.mem_append.mp he with he | he
  · exact hchecked e he
  · exact hchecked' e he

theorem run_checksAll (c : Client σ) (x : Call) (s : Scene (σ × List Envelope)) :
    ChecksAll s (x.run (recorded c) s) := by
  rcases x.run_shape (recorded c) s with ⟨order, hrun⟩ | ⟨contract, msg, hrun⟩ | hrun
  · obtain ⟨heard, n', _, _, hcourse⟩ := submit_course (recorded c) order s
    exact ⟨envelopes heard, by rw [hrun, hcourse.dealt.recorded], hcourse.checked⟩
  · exact ⟨[], by rw [hrun, List.append_nil]; rfl, by simp⟩
  · rw [hrun]
    exact .refl s

theorem runAll_checked (c : Client σ) (calls : List Call) (s : Scene (σ × List Envelope)) :
    ∃ sent, (Call.runAll (recorded c) calls s).world.ledger.2 = s.world.ledger.2 ++ sent ∧
      ∀ e ∈ sent, Checked e :=
  Call.runAll_induction ChecksAll.refl (fun _ _ _ => ChecksAll.trans) (run_checksAll c) calls s

/-- Why an order is refused: for its fee, and only with a fee in order for its operation. -/
theorem sealed_refusal {s : Session} {order : Order} {n : Counters}
    (h : ¬ (order.fee.Payable ∧ order.operation.WellFormed)) :
    ∃ f, sealed s order n = .error f ∧
      (¬ order.fee.Payable → ∃ e, order.fee.check = .error e ∧ f = .invalidFee e.message) ∧
      (order.fee.Payable → ∃ e, order.operation.check = .error e ∧
        f = .invalidOperation e.message) := by
  rw [← Fee.check_eq_ok_iff, ← Operation.check_eq_ok_iff, ← sealed_eq_ok_iff (s := s) (n := n)] at h
  rw [← Fee.check_eq_ok_iff]
  cases hsealed : sealed s order n with
  | ok e => exact absurd ⟨e, hsealed⟩ h
  | error f =>
    refine ⟨f, rfl, ?_⟩
    rcases sealed_error hsealed with ⟨e, hfee, hf⟩ | ⟨hfee, hoperation⟩
    · exact ⟨fun _ => ⟨e, hfee, hf⟩, by simp [hfee]⟩
    · exact ⟨by simp [hfee], fun _ => hoperation⟩

/-- A refused order ends with the first lookup, and the wallet has taken in what that told. -/
theorem Course.turnedAway {c : Client σ} {s : Session} {order : Order} {n n' : Counters} {l l' : σ}
    {heard : List Contact} {result : Except Failure Submission} {info : AccountInfo} {f : Failure}
    (h : Course c s order 0 n l heard result n' l')
    (looked : (c.account s.wallet.account l).1 = .ok info)
    (refusal : sealed s order (n.observe info) = .error f) :
    envelopes heard = [] ∧ result = .error f ∧ n' = n.observe info := by
  have hunmade : ∀ {info' m e answer l'}, ¬ Try c s order false n l info' m e answer l' := by
    intro info' m e answer l' made
    cases looked.symm.trans made.looked
    have hsigned := made.signed
    rw [made.counters, show adopted false n info = n.observe info from rfl, refusal] at hsigned
    cases hsigned
  cases h with
  | unanswered hfailed => cases looked.symm.trans hfailed
  | refused hlooked hrefusal =>
    cases looked.symm.trans hlooked
    cases refusal.symm.trans hrefusal
    exact ⟨rfl, rfl, rfl⟩
  | unsent made | rejected made _ | succeeded made _ | exhausted made _ _ | again made _ _ _ =>
    exact absurd made hunmade

/-- How a submission ends that is refused for its fee or its operation. -/
structure TurnedAway (c : Client σ) (order : Order) (s : Scene (σ × List Envelope)) : Prop where
  unsent : (submit (recorded c) order s).2.world.ledger.2 = s.world.ledger.2
  invalidFee : ¬ order.fee.Payable → ∃ e, order.fee.check = .error e ∧
    (submit (recorded c) order s).1 = .error (.invalidFee e.message)
  invalidOperation : order.fee.Payable → ∃ e, order.operation.check = .error e ∧
    (submit (recorded c) order s).1 = .error (.invalidOperation e.message)
  notLowered : s.session.wallet.sequence ≤ (submit (recorded c) order s).2.session.wallet.sequence

theorem submit_turnedAway {c : Client σ} {order : Order} {s : Scene (σ × List Envelope)}
    {info : AccountInfo}
    (looked : (c.account s.session.wallet.account s.world.ledger.1).1 = .ok info)
    (invalid : ¬ (order.fee.Payable ∧ order.operation.WellFormed)) : TurnedAway c order s := by
  obtain ⟨heard, n', _, hs, hcourse⟩ := submit_course (recorded c) order s
  obtain ⟨f, hrefusal, hfee, hoperation⟩ :=
    sealed_refusal (s := s.session) (n := s.session.wallet.counters.observe info) invalid
  obtain ⟨hnone, hresult, rfl⟩ := hcourse.turnedAway looked hrefusal
  refine ⟨by rw [hcourse.dealt.recorded, hnone, List.append_nil], ?_, ?_, ?_⟩
  · intro unpayable
    obtain ⟨e, hcheck, rfl⟩ := hfee unpayable
    exact ⟨e, hcheck, hresult⟩
  · intro payable
    obtain ⟨e, hcheck, rfl⟩ := hoperation payable
    exact ⟨e, hcheck, hresult⟩
  · rw [hs]
    exact Word64.le_max_fst _ _

/-- Over every run of calls, what a ledger is handed has been checked. An order that does not pass the
checks is answered with what is wrong with it, the fee coming first, without a broadcast. -/
theorem recorded_checked (c : Client σ) (calls : List Call) (s : Scene (σ × List Envelope)) :
    (∃ sent, (Call.runAll (recorded c) calls s).world.ledger.2 = s.world.ledger.2 ++ sent ∧
      ∀ e ∈ sent, Checked e) ∧
    ∀ order info,
      (c.account s.session.wallet.account s.world.ledger.1).1 = .ok info →
      ¬ (order.fee.Payable ∧ order.operation.WellFormed) → TurnedAway c order s := by
  refine ⟨runAll_checked c calls s, ?_⟩
  intro order info looked invalid
  exact submit_turnedAway looked invalid

def emptyOrder : Order := ⟨.storeCode [], ⟨0, []⟩, none⟩

def recordedScene : Scene (Scripted × List Envelope) :=
  ⟨leastSession, { ledger := ({
    chainId := "localterra", account := ⟨1, 4⟩
    script := [.ok Scripted.mismatch, .ok (Scripted.success 1 [])] }, []) }⟩

theorem recorded_checked_twice :
    let s := recordedScene
    let calls : List Call := [.submit emptyOrder, .submit leastOrder]
    (∃ sent, (Call.runAll (recorded Scripted.client) calls s).world.ledger.2 = [] ++ sent ∧
      ∀ e ∈ sent, Checked e) ∧
    (Call.runAll (recorded Scripted.client) calls s).world.ledger.2.length = 2 ∧
    TurnedAway Scripted.client emptyOrder s :=
  have h := recorded_checked Scripted.client [.submit emptyOrder, .submit leastOrder] recordedScene
  ⟨h.1, rfl, h.2 emptyOrder ⟨1, 4⟩ rfl fun valid => absurd valid.1.gas (by decide)⟩

end TxDispatch.Proofs
