import TxDispatch.Proofs.RecordedSequences

namespace TxDispatch.Proofs

open Scene

variable {σ : Type}

/-- The number after a sequence, or the greatest one after which there is none. -/
def following (used : UInt64) : Nat := min (used.toNat + 1) (UInt64.size - 1)

/-- The ways in which submissions end: what is heard in all, the result, and the sequence that a wallet
with the sequence `w` is left with. -/
inductive Leaves (s : Session) (order : Order) (w : Nat) :
    List Contact → Except Failure Submission → Nat → Prop where
  | unanswered (f : Failure) :
      Leaves s order w [.looked s.wallet.account (.error f)] (.error f) w
  | refused (info : AccountInfo) (f : Failure)
      (refusal : ¬ (order.fee.check = .ok () ∧ order.operation.check = .ok ())) :
      Leaves s order w [.looked s.wallet.account (.ok info)] (.error f) (max w info.sequence.toNat)
  | unsent (before : List Contact) (e : Envelope) (f : Failure) :
      Leaves s order w (before ++ [.sent e (.error f)]) (.error f) e.sequence.toNat
  | exhausted (before : List Contact) (e : Envelope) (r : Receipt) (attempts : UInt32)
      (conflict : r.verdict s.conflictCodes = .conflict) :
      Leaves s order w (before ++ [.sent e (.ok r)]) (.error (.retryExhausted attempts))
        e.sequence.toNat
  | forsaken (before : List Contact) (e : Envelope) (r : Receipt) (ms : UInt64) (f : Failure)
      (conflict : r.verdict s.conflictCodes = .conflict) :
      Leaves s order w
        (before ++ [.sent e (.ok r), .rested ms, .looked s.wallet.account (.error f)]) (.error f)
        e.sequence.toNat
  | rejected (before : List Contact) (e : Envelope) (r : Receipt)
      (failed : r.verdict s.conflictCodes = .failed r.code r.codespace r.rawLog) :
      Leaves s order w (before ++ [.sent e (.ok r)])
        (.error (.rejected order.operation.kind.label r.code r.codespace r.rawLog r.txhash))
        (if 0 < r.height then following e.sequence else e.sequence.toNat)
  | missing (before : List Contact) (e : Envelope) (r : Receipt) (t : Target)
      (success : r.verdict s.conflictCodes = .succeeded) (target : order.target = some t)
      (absent : r.eventLog.extract? t = none) :
      Leaves s order w (before ++ [.sent e (.ok r)])
        (.error (.missingEvent r.txhash t.eventType t.attributeKey)) (following e.sequence)
  | done (before : List Contact) (e : Envelope) (r : Receipt) (submission : Submission)
      (success : r.verdict s.conflictCodes = .succeeded) :
      Leaves s order w (before ++ [.sent e (.ok r)]) (.ok submission) (following e.sequence)

/-- A round that was lost to a conflict comes in front. A lookup that fails after it leaves the wallet
with the sequence that the round was broadcast with. -/
theorem Leaves.lose {s : Session} {order : Order} {w q : Nat} {info : AccountInfo} {e : Envelope}
    {r : Receipt} {ms : UInt64} {heard : List Contact} {result : Except Failure Submission}
    (valid : order.fee.check = .ok () ∧ order.operation.check = .ok ())
    (conflict : r.verdict s.conflictCodes = .conflict)
    (h : Leaves s order e.sequence.toNat heard result q) :
    Leaves s order w
      (.looked s.wallet.account (.ok info) :: .sent e (.ok r) :: .rested ms :: heard) result q := by
  cases h with
  | unanswered f => exact .forsaken [_] e r ms f conflict
  | refused _ _ refusal => exact absurd valid refusal
  | unsent before e' f => exact .unsent (_ :: _ :: _ :: before) e' f
  | exhausted before e' r' attempts hv => exact .exhausted (_ :: _ :: _ :: before) e' r' attempts hv
  | forsaken before e' r' ms' f hv => exact .forsaken (_ :: _ :: _ :: before) e' r' ms' f hv
  | rejected before e' r' hv => exact .rejected (_ :: _ :: _ :: before) e' r' hv
  | missing before e' r' t hv ht hx => exact .missing (_ :: _ :: _ :: before) e' r' t hv ht hx
  | done before e' r' submission hv => exact .done (_ :: _ :: _ :: before) e' r' submission hv

theorem advancePast_toNat {m : Counters} {used : UInt64} (h : m.sequence = used) :
    (m.advancePast used).sequence.toNat = following used := by
  rw [advancePast_sequence h, Counters.after_toNat, following]

theorem leaves_conclude {s : Session} {order : Order} {w : Nat} {r : Receipt}
    (before : List Contact) (e : Envelope) (made : UInt32)
    (success : r.verdict s.conflictCodes = .succeeded) :
    Leaves s order w (before ++ [.sent e (.ok r)]) (Session.conclude order.target made r)
      (following e.sequence) := by
  obtain ⟨_, h⟩ | ⟨t, ht, hx, h⟩ | ⟨_, _, _, _, h⟩ := conclude_cases order.target made r
  · exact h ▸ .done before e r _ success
  · exact h ▸ .missing before e r t success ht hx
  · exact h ▸ .done before e r _ success

/-- Every course ends in one of the ways. Only the first round can be refused, because what is refused
does not depend on the account. -/
theorem Course.leaves {c : Client σ} {s : Session} {order : Order} {k : Nat} {n n' : Counters}
    {l l' : σ} {heard : List Contact} {result : Except Failure Submission}
    (h : Course c s order k n l heard result n' l')
    (valid : 0 < k → order.fee.check = .ok () ∧ order.operation.check = .ok ()) :
    Leaves s order n.sequence.toNat heard result n'.sequence.toNat := by
  induction h with
  | unanswered _ => exact .unanswered _
  | @refused k n l info f looked refusal =>
    have hno : ¬ (order.fee.check = .ok () ∧ order.operation.check = .ok ()) :=
      fun hv => sealed_ne_error hv.1 hv.2 refusal
    obtain rfl : k = 0 := Nat.eq_zero_of_not_pos fun hk => hno (valid hk)
    rw [adopted, if_neg (by decide), Counters.observe, Word64.toNat_max]
    exact .refused info f hno
  | unsent made => exact sealed_sequence made.signed ▸ .unsent [_] _ _
  | @rejected k n l info m e r l' made failed =>
    have hm : m.sequence = e.sequence := (sealed_sequence made.signed).symm
    have hq : (if r.isIncluded then m.advancePast e.sequence else m).sequence.toNat =
        if 0 < r.height then following e.sequence else e.sequence.toNat := by
      rw [Receipt.isIncluded]
      split <;> rename_i hincluded
      · rw [if_pos (of_decide_eq_true hincluded), advancePast_toNat hm]
      · rw [if_neg (of_decide_eq_false (eq_false_of_ne_true hincluded)), hm]
    exact hq ▸ .rejected [_] e r failed
  | @succeeded k n l info m e r l' made success =>
    have hm : m.sequence = e.sequence := (sealed_sequence made.signed).symm
    exact advancePast_toNat hm ▸ leaves_conclude [_] e _ success
  | exhausted made conflict _ =>
    exact sealed_sequence made.signed ▸ .exhausted [_] _ _ _ conflict
  | again made conflict _ _ ih =>
    have hv := sealed_eq_ok_iff.mp ⟨_, made.signed⟩
    refine .lose hv conflict ?_
    rw [sealed_sequence made.signed]
    exact ih fun _ => hv

def numbers (heard : List Contact) : List UInt64 :=
  heard.filterMap fun x => match x with
    | .looked _ (.ok info) => some info.accountNumber
    | _ => none

/-- A wallet has the account number of the last lookup that was answered. -/
theorem Kept.accountNumber {codes : List ConflictCode} {w w' : Copy} {heard : List Contact}
    (h : Kept codes w heard w') :
    w'.counters.accountNumber = (numbers heard).getLastD w.counters.accountNumber := by
  induction h with
  | done => rfl
  | @looked w a answer heard w' rest ih =>
    cases answer with
    | error f => exact ih
    | ok info =>
      have hnumber : (adopted w.stale w.counters info).accountNumber = info.accountNumber := by
        cases w.stale <;> rfl
      have hlast : numbers (.looked a (.ok info) :: heard) = info.accountNumber :: numbers heard :=
        rfl
      rw [ih, hlast, List.getLastD_cons, ← hnumber]
      rfl
  | @sent w e answer heard w' _ rest ih =>
    have hnumber : (w.learn codes (.sent e answer)).accountNumber = w.counters.accountNumber := by
      cases answer with
      | error f => rfl
      | ok r =>
        simp only [Copy.learn]
        split <;> rfl
    exact hnumber ▸ ih
  | rested _ _ _ ih => exact ih

/-- However a submission ends, its journal tells what it leaves: the sequence by the last contacts, and
the account number by the last lookup that was answered. The rest of the session is as it was. -/
theorem submit_leaves (c : Client σ) (order : Order) (s : Scene σ) :
    ∃ heard left, Leads c s heard (submit c order s).2 ∧
      (submit c order s).2.session = withCounters s.session left ∧
      Leaves s.session order s.session.wallet.sequence.toNat heard (submit c order s).1
        left.sequence.toNat ∧
      left.accountNumber = (numbers heard).getLastD s.session.wallet.accountNumber := by
  obtain ⟨heard, n', hj, hs, hcourse⟩ := submit_course c order s
  obtain ⟨w', hkept, hn, _⟩ := hcourse.kept (w := ⟨s.session.wallet.counters, none⟩) rfl rfl
  refine ⟨heard, n', ⟨hj, hcourse.dealt⟩, hs, hcourse.leaves (by simp), ?_⟩
  rw [← hn]
  exact hkept.accountNumber

end TxDispatch.Proofs
