import TxDispatch.Ledger.Scripted
import TxDispatch.Proofs.RecordedSequences

namespace TxDispatch

namespace Scripted

def next (l : Scripted) : Except Failure Receipt :=
  l.script.headD (.error (.rpc "mock ledger has no scripted response"))

/-- The account after an answer, whose sequence moves on if the answer consumes it. -/
def accountAfter (l : Scripted) : Except Failure Receipt → AccountInfo
  | .ok r =>
    if consumes r then { l.account with sequence := l.account.sequence + 1 } else l.account
  | .error _ => l.account

/-- An answer uses up a sequence: it is a result without the log of a mismatch, and it has no error
code or is in a block. -/
def uses : Except Failure Receipt → Bool
  | .ok r => r.rawLog != mismatchLog && (r.code == 0 || 0 < r.height)
  | .error _ => false

theorem uses_ok (r : Receipt) : uses (.ok r) = consumes r := by
  simp [uses, consumes, Receipt.isError, Receipt.isIncluded, bne]

theorem accountAfter_eq (l : Scripted) (answer : Except Failure Receipt) : l.accountAfter answer =
    if uses answer then { l.account with sequence := l.account.sequence + 1 } else l.account := by
  cases answer with
  | error f => rfl
  | ok r => rw [uses_ok, accountAfter]

theorem settle_account (l : Scripted) (r : Receipt) :
    (l.settle r).account = l.accountAfter (.ok r) := by
  by_cases h : consumes r = true <;> simp [settle, accountAfter, setSequence, h]

theorem settle_enforcing (l : Scripted) (r : Receipt) : (l.settle r).enforcing = l.enforcing := by
  by_cases h : consumes r = true <;> simp [settle, setSequence, h]

theorem settle_script (l : Scripted) (r : Receipt) : (l.settle r).script = l.script := by
  by_cases h : consumes r = true <;> simp [settle, setSequence, h]

/-- An envelope with another sequence is refused, and consumes nothing. -/
theorem receive_refused {l : Scripted} {e : Envelope} (enforcing : l.enforcing = true)
    (stale : e.sequence ≠ l.account.sequence) :
    l.receive e = (.ok mismatch, { l with broadcasts := l.broadcasts ++ [e] }) := by
  simp [receive, enforcing, stale]

/-- An envelope with the ledger's sequence is answered from the script. -/
theorem receive_next {l : Scripted} {e : Envelope} (level : e.sequence = l.account.sequence) :
    (l.receive e).1 = l.next ∧ (l.receive e).2.account = l.accountAfter l.next ∧
      (l.receive e).2.enforcing = l.enforcing ∧ (l.receive e).2.script = l.script.tail := by
  cases hs : l.script with
  | nil => simp [receive, level, hs, next, accountAfter]
  | cons answer rest =>
    cases answer with
    | error f => simp [receive, level, hs, next, accountAfter]
    | ok r =>
      simp [receive, level, hs, next, settle_account, settle_enforcing, settle_script, accountAfter]

end Scripted

namespace Proofs

open Scene Scripted

/-- The two rules agree where there is no conflict. -/
theorem consumes_eq_credits {codes : List ConflictCode} {r : Receipt}
    (settled : r.verdict codes ≠ .conflict) : consumes r = credits codes r := by
  cases hv : r.verdict codes with
  | conflict => exact absurd hv settled
  | succeeded =>
    obtain ⟨hlog, herror⟩ := Receipt.verdict_eq_succeeded_iff.mp hv
    simp [consumes, credits, hv, hlog, herror]
  | failed code codespace rawLog =>
    obtain ⟨hlog, herror, _⟩ := Receipt.verdict_eq_failed_iff.mp ⟨_, _, _, hv⟩
    simp [consumes, credits, hv, hlog, herror]

/-- A mismatch consumes nothing. -/
theorem consumes_of_mismatch {r : Receipt} (h : r.rawLog = mismatchLog) : consumes r = false := by
  simp [consumes, h]

theorem after_of_lt {q : UInt64} (below : q < Counters.lastSequence) : Counters.after q = q + 1 := by
  have hne : q ≠ Counters.lastSequence := fun h => UInt64.lt_irrefl _ (h ▸ below)
  simp [Counters.after, hne]

theorem toNat_succ {q : UInt64} (below : q < Counters.lastSequence) :
    (q + 1).toNat = q.toNat + 1 := by
  have hlt : q.toNat < UInt64.size - 1 := UInt64.lt_iff_toNat_lt.mp below
  rw [← after_of_lt below, Counters.after_toNat]
  omega

/-- Below the last sequence, an answer moves the ledger to the next one or leaves it. -/
theorem accountAfter_sequence {l : Scripted} (below : l.account.sequence < Counters.lastSequence)
    (r : Receipt) : (l.accountAfter (.ok r)).sequence =
      if consumes r then Counters.after l.account.sequence else l.account.sequence := by
  rw [after_of_lt below]
  by_cases h : consumes r = true <;> simp [accountAfter, h]

theorem le_accountAfter {l : Scripted} (below : l.account.sequence < Counters.lastSequence)
    (answer : Except Failure Receipt) :
    l.account.sequence ≤ (l.accountAfter answer).sequence := by
  cases answer with
  | error f => exact UInt64.le_refl _
  | ok r =>
    rw [accountAfter_sequence below]
    split
    · exact UInt64.le_of_lt (lt_after below)
    · exact UInt64.le_refl _

/-- A wallet that is not ahead takes over the sequence that it is told. -/
theorem adopted_sequence {n : Counters} {info : AccountInfo} (conflicted : Bool)
    (behind : n.sequence ≤ info.sequence) :
    (adopted conflicted n info).sequence = info.sequence := by
  cases conflicted with
  | true => rfl
  | false => simp [adopted, Counters.observe, max, behind]

/-- A scripted ledger answers at once, so that no deadline elapses. -/
theorem answered_scripted (secs : UInt64) (e : Envelope) (l : Scripted) :
    answered Scripted.client secs e l = l.receive e := by
  have hnow : Deadline.ending secs 0 = .finished := by simp [Deadline.ending]
  simp only [answered, Scripted.client, hnow]

/-- A broadcast that carries the ledger's sequence, so that the script answers it. -/
structure Admitted (l : Scripted) (m : Counters) (e : Envelope) (answer : Except Failure Receipt)
    (l' : Scripted) : Prop where
  counters : m.sequence = l.account.sequence
  sequence : e.sequence = l.account.sequence
  received : l.receive e = (answer, l')
  scripted : answer = l.next
  account : l'.account = l.accountAfter answer

/-- A round on a scripted ledger learns its account, and is answered by it. -/
theorem Try.scripted {s : Session} {order : Order} {conflicted : Bool} {n m : Counters}
    {l l' : Scripted} {info : AccountInfo} {e : Envelope} {answer : Except Failure Receipt}
    (made : Try Scripted.client s order conflicted n l info m e answer l') :
    m = adopted conflicted n l.account ∧ l.receive e = (answer, l') := by
  have hinfo : l.account = info := Except.ok.inj made.looked
  refine ⟨by rw [made.counters, hinfo], ?_⟩
  rw [← made.sent, answered_scripted]
  rfl

/-- A broadcast is admitted if the lookup before it brought the wallet to the ledger's sequence. -/
theorem Try.admitted_of_level {s : Session} {order : Order} {conflicted : Bool} {n m : Counters}
    {l l' : Scripted} {info : AccountInfo} {e : Envelope} {answer : Except Failure Receipt}
    (made : Try Scripted.client s order conflicted n l info m e answer l')
    (level : (adopted conflicted n l.account).sequence = l.account.sequence) :
    Admitted l m e answer l' := by
  obtain ⟨rfl, hreceive⟩ := made.scripted
  have he : e.sequence = l.account.sequence := (sealed_sequence made.signed).trans level
  obtain ⟨hanswer, haccount, _, _⟩ := receive_next he
  simp only [hreceive] at hanswer haccount
  exact ⟨level, he, hreceive, hanswer, hanswer ▸ haccount⟩

/-- The broadcasts of a wallet that is not ahead of the ledger are admitted. -/
theorem Try.admitted {s : Session} {order : Order} {conflicted : Bool} {n m : Counters}
    {l l' : Scripted} {info : AccountInfo} {e : Envelope} {answer : Except Failure Receipt}
    (made : Try Scripted.client s order conflicted n l info m e answer l')
    (behind : n.sequence ≤ l.account.sequence) : Admitted l m e answer l' :=
  made.admitted_of_level (adopted_sequence conflicted behind)

/-- After an admitted broadcast the wallet is not ahead, whatever the session makes of the answer. -/
theorem Admitted.behind {l l' : Scripted} {m : Counters} {e : Envelope}
    {answer : Except Failure Receipt} (h : Admitted l m e answer l')
    (below : l.account.sequence < Counters.lastSequence) : m.sequence ≤ l'.account.sequence := by
  rw [h.counters, h.account]
  exact le_accountAfter below answer

/-- After every answer but a conflict the wallet and the ledger are at one sequence. -/
theorem Admitted.level (codes : List ConflictCode) {l l' : Scripted} {m : Counters} {e : Envelope}
    {r : Receipt} (h : Admitted l m e (.ok r) l')
    (below : l.account.sequence < Counters.lastSequence) (settled : r.verdict codes ≠ .conflict) :
    (if credits codes r then m.advancePast e.sequence else m).sequence = l'.account.sequence := by
  rw [h.account, accountAfter_sequence below, consumes_eq_credits settled]
  split
  · rw [advancePast_sequence (h.counters.trans h.sequence.symm), h.sequence]
  · exact h.counters

/-- A transport failure leaves them at one sequence, and so does a mismatch. -/
theorem Admitted.unmoved {l l' : Scripted} {m : Counters} {e : Envelope}
    {answer : Except Failure Receipt} (h : Admitted l m e answer l')
    (unconsumed : ∀ r, answer = .ok r → consumes r = false) :
    m.sequence = l'.account.sequence := by
  rw [h.counters, h.account]
  cases answer with
  | error f => rfl
  | ok r => simp [accountAfter, unconsumed r rfl]

end Proofs

end TxDispatch
