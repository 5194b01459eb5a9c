import TxDispatch.Proofs.Enforcement
import TxDispatch.Proofs.Outcomes

namespace TxDispatch.Proofs

open Scene Scripted

/-- What comes of a submission whose last broadcast, the `made`th, has the given answer. The answer is
no conflict. -/
inductive Returned (order : Order) (made : UInt32) :
    Except Failure Receipt → Except Failure Submission → Prop where
  | unsent (f : Failure) : Returned order made (.error f) (.error f)
  | rejected (r : Receipt) (failed : r.code ≠ 0) :
      Returned order made (.ok r)
        (.error (.rejected order.operation.kind.label r.code r.codespace r.rawLog r.txhash))
  | missing (r : Receipt) (t : Target) (success : r.code = 0) (target : order.target = some t)
      (absent : r.eventLog.extract? t = none) :
      Returned order made (.ok r) (.error (.missingEvent r.txhash t.eventType t.attributeKey))
  | found (r : Receipt) (t : Target) (value : String) (success : r.code = 0)
      (target : order.target = some t) (present : r.eventLog.extract? t = some value) :
      Returned order made (.ok r) (.ok ⟨r.txhash, r.height, r.gasUsed, made, some value⟩)
  | untargeted (r : Receipt) (success : r.code = 0) (target : order.target = none) :
      Returned order made (.ok r) (.ok ⟨r.txhash, r.height, r.gasUsed, made, none⟩)

theorem returned_conclude {order : Order} {r : Receipt} (made : UInt32) (success : r.code = 0) :
    Returned order made (.ok r) (Session.conclude order.target made r) := by
  obtain ⟨ht, h⟩ | ⟨t, ht, hx, h⟩ | ⟨t, value, ht, hx, h⟩ := conclude_cases order.target made r
  · exact h ▸ .untargeted r success ht
  · exact h ▸ .missing r t success ht hx
  · exact h ▸ .found r t value success ht hx

/-- A submission on a scripted ledger that broadcast envelopes with the given sequences, so many in
all, and was decided by the answer that stood next in the script. Ledger and wallet end one sequence
further on if that answer uses it up, and else where the ledger was. -/
structure Recovered (order : Order) (l : Scripted) (made : UInt32) (sequences : List UInt64)
    (result : Except Failure Submission) (n' : Counters) (l' : Scripted) : Prop where
  broadcasts : ∃ es, l'.broadcasts = l.broadcasts ++ es ∧ es.map Envelope.sequence = sequences
  script : l'.script = l.script.tail
  result : Returned order made l.next result
  number : l'.account.accountNumber = l.account.accountNumber
  ledger : l'.account.sequence.toNat = l.account.sequence.toNat + if uses l.next then 1 else 0
  wallet : n'.sequence.toNat = l.account.sequence.toNat + if uses l.next then 1 else 0

/-- The round of an admitted broadcast, if the wallet and the ledger end at one sequence. -/
theorem Admitted.recovered {order : Order} {l l' : Scripted} {m n' : Counters} {e : Envelope}
    {answer : Except Failure Receipt} {made : UInt32} {result : Except Failure Submission}
    (h : Admitted l m e answer l') (decided : Returned order made answer result)
    (below : l.account.sequence < Counters.lastSequence)
    (level : n'.sequence = l'.account.sequence) :
    Recovered order l made [l.account.sequence] result n' l' := by
  have hbroadcasts := receive_broadcasts l e
  obtain ⟨_, _, _, hscript⟩ := receive_next h.sequence
  have hledger : l'.account = l.accountAfter l.next := h.scripted ▸ h.account
  rw [accountAfter_eq] at hledger
  have hnumber : l'.account.accountNumber = l.account.accountNumber := by
    rw [hledger]
    split <;> rfl
  have hsequence : l'.account.sequence.toNat =
      l.account.sequence.toNat + if uses l.next then 1 else 0 := by
    rw [hledger]
    split
    · exact toNat_succ below
    · rfl
  rw [h.received] at hbroadcasts hscript
  exact ⟨⟨[e], hbroadcasts, by rw [List.map_singleton, h.sequence]⟩, hscript, h.scripted ▸ decided,
    hnumber, hsequence, level ▸ hsequence⟩

/-- A round whose lookup brings the wallet level with the ledger is the last, and is decided by the
next answer of the script, if that is no mismatch. -/
theorem Course.decided_of_level {s : Session} {order : Order} {k : Nat} {n n' : Counters}
    {l l' : Scripted} {heard : List Contact} {result : Except Failure Submission}
    (h : Course Scripted.client s order k n l heard result n' l')
    (fee : order.fee.check = .ok ()) (operation : order.operation.check = .ok ())
    (plain : s.conflictCodes = []) (clean : ∀ r, l.next = .ok r → r.rawLog ≠ mismatchLog)
    (level : (adopted (0 < k) n l.account).sequence = l.account.sequence) :
    ∃ m e, Admitted l m e l.next l' ∧ Returned order (.ofNat (k + 1)) l.next result ∧
      n' = Copy.learn s.conflictCodes ⟨m, none⟩ (.sent e l.next) := by
  have hadmitted : ∀ {info m e answer l'},
      Try Scripted.client s order (0 < k) n l info m e answer l' →
        Admitted l m e answer l' ∧ answer = l.next := by
    intro info m e answer l' made
    exact ⟨made.admitted_of_level level, (made.admitted_of_level level).scripted⟩
  have hsettled : ∀ {info m e r l'},
      Try Scripted.client s order (0 < k) n l info m e (.ok r) l' →
        r.verdict s.conflictCodes ≠ .conflict := by
    intro info m e r l' made
    rw [plain, ne_eq, Receipt.verdict_eq_conflict_iff]
    exact clean r (hadmitted made).2.symm
  cases h with
  | unanswered looked => cases looked
  | refused _ refusal => exact absurd refusal (sealed_ne_error fee operation)
  | unsent made =>
    obtain ⟨h, hnext⟩ := hadmitted made
    exact ⟨_, _, hnext ▸ h, hnext ▸ .unsent _, hnext ▸ rfl⟩
  | rejected made failed =>
    obtain ⟨h, hnext⟩ := hadmitted made
    obtain ⟨_, herror, _⟩ := Receipt.verdict_eq_failed_iff.mp ⟨_, _, _, failed⟩
    exact ⟨_, _, hnext ▸ h, hnext ▸ .rejected _ (by simpa [Receipt.isError] using herror),
      by simp [← hnext, Copy.learn, credits, failed]⟩
  | succeeded made success =>
    obtain ⟨h, hnext⟩ := hadmitted made
    obtain ⟨_, herror⟩ := Receipt.verdict_eq_succeeded_iff.mp success
    exact ⟨_, _, hnext ▸ h, hnext ▸ returned_conclude _ (by simpa [Receipt.isError] using herror),
      by simp [← hnext, Copy.learn, credits, success]⟩
  | exhausted made conflict _ => exact absurd conflict (hsettled made)
  | again made conflict _ _ => exact absurd conflict (hsettled made)

/-- Such a round leaves the wallet and the ledger at one sequence. -/
theorem Course.recovered_of_level {s : Session} {order : Order} {k : Nat} {n n' : Counters}
    {l l' : Scripted} {heard : List Contact} {result : Except Failure Submission}
    (h : Course Scripted.client s order k n l heard result n' l')
    (fee : order.fee.check = .ok ()) (operation : order.operation.check = .ok ())
    (plain : s.conflictCodes = []) (below : l.account.sequence < Counters.lastSequence)
    (clean : ∀ r, l.next = .ok r → r.rawLog ≠ mismatchLog)
    (level : (adopted (0 < k) n l.account).sequence = l.account.sequence) :
    Recovered order l (.ofNat (k + 1)) [l.account.sequence] result n' l' := by
  obtain ⟨m, e, hadmitted, hresult, rfl⟩ := h.decided_of_level fee operation plain clean level
  refine hadmitted.recovered hresult below ?_
  cases hnext : l.next with
  | error f => exact (hnext ▸ hadmitted).unmoved (by simp)
  | ok r =>
    have hsettled : r.verdict s.conflictCodes ≠ .conflict := by
      rw [plain, ne_eq, Receipt.verdict_eq_conflict_iff]
      exact clean r hnext
    exact (hnext ▸ hadmitted).level s.conflictCodes below hsettled

/-- The broadcast of a wallet that is ahead is refused. -/
theorem Try.refused {s : Session} {order : Order} {n m : Counters} {l l' : Scripted}
    {info : AccountInfo} {e : Envelope} {answer : Except Failure Receipt}
    (made : Try Scripted.client s order false n l info m e answer l')
    (enforcing : l.enforcing = true) (ahead : l.account.sequence < n.sequence) :
    e.sequence = n.sequence ∧ answer = .ok mismatch ∧
      l' = { l with broadcasts := l.broadcasts ++ [e] } := by
  obtain ⟨rfl, hreceive⟩ := made.scripted
  have hm : (adopted false n l.account).sequence = n.sequence := by
    have hnot : ¬ n.sequence ≤ l.account.sequence := UInt64.not_le.mpr ahead
    simp [adopted, Counters.observe, max, hnot]
  have he : e.sequence = n.sequence := (sealed_sequence made.signed).trans hm
  have hstale : e.sequence ≠ l.account.sequence := by
    rw [he]
    intro h
    exact UInt64.lt_irrefl _ (h ▸ ahead)
  rw [receive_refused enforcing hstale] at hreceive
  obtain ⟨hanswer, hledger⟩ := Prod.mk.inj hreceive
  exact ⟨he, hanswer.symm, hledger.symm⟩

/-- A refused broadcast comes in front of the others, and changes nothing else. -/
theorem Recovered.after_refused {order : Order} {l l' : Scripted} {e : Envelope} {made : UInt32}
    {sequences : List UInt64} {result : Except Failure Submission} {n' : Counters}
    (h : Recovered order { l with broadcasts := l.broadcasts ++ [e] } made sequences result n' l') :
    Recovered order l made (e.sequence :: sequences) result n' l' := by
  obtain ⟨⟨es, hes, hsequences⟩, hscript, hresult, hnumber, hledger, hwallet⟩ := h
  refine ⟨⟨e :: es, ?_, ?_⟩, hscript, hresult, hnumber, hledger, hwallet⟩
  · rw [hes, List.append_assoc, List.singleton_append]
  · rw [List.map_cons, hsequences]

/-- The first round of a wallet that is ahead is refused. With a budget of one the submission gives up
there, and wallet and account are as they were; with any other it goes on. -/
theorem Course.first_refused {s : Session} {order : Order} {n n' : Counters} {l l' : Scripted}
    {heard : List Contact} {result : Except Failure Submission}
    (h : Course Scripted.client s order 0 n l heard result n' l')
    (fee : order.fee.check = .ok ()) (operation : order.operation.check = .ok ())
    (enforcing : l.enforcing = true) (ahead : l.account.sequence < n.sequence) :
    ∃ e, e.sequence = n.sequence ∧
      ((s.backoff.maxAttempts.toNat = 1 ∧ result = .error (.retryExhausted 1) ∧
          n'.sequence = n.sequence ∧ l' = { l with broadcasts := l.broadcasts ++ [e] }) ∨
        (1 < s.backoff.maxAttempts.toNat ∧ ∃ m later,
          Course Scripted.client s order 1 m { l with broadcasts := l.broadcasts ++ [e] } later
            result n' l')) := by
  have hconflict : mismatch.verdict s.conflictCodes = .conflict := Receipt.verdict_of_mismatch rfl
  cases h with
  | unanswered looked => cases looked
  | refused _ refusal => exact absurd refusal (sealed_ne_error fee operation)
  | unsent made => cases (made.refused enforcing ahead).2.1
  | rejected made failed =>
    cases (made.refused enforcing ahead).2.1
    rw [hconflict] at failed
    cases failed
  | succeeded made success =>
    cases (made.refused enforcing ahead).2.1
    rw [hconflict] at success
    cases success
  | exhausted made _ spent =>
    obtain ⟨he, _, hl⟩ := made.refused enforcing ahead
    exact ⟨_, he, .inl ⟨spent.symm, rfl, (sealed_sequence made.signed).symm.trans he, hl⟩⟩
  | again made _ left rest =>
    obtain ⟨he, _, rfl⟩ := made.refused enforcing ahead
    exact ⟨_, he, .inr ⟨left, _, _, rest⟩⟩

/-- A wallet that is ahead goes on with the ledger's sequence after its first round. -/
theorem Course.recovered_of_ahead {s : Session} {order : Order} {n n' : Counters} {l l' : Scripted}
    {heard : List Contact} {result : Except Failure Submission}
    (h : Course Scripted.client s order 0 n l heard result n' l')
    (fee : order.fee.check = .ok ()) (operation : order.operation.check = .ok ())
    (plain : s.conflictCodes = []) (budget : 2 ≤ s.backoff.maxAttempts.toNat)
    (enforcing : l.enforcing = true) (below : l.account.sequence < Counters.lastSequence)
    (clean : ∀ r, l.next = .ok r → r.rawLog ≠ mismatchLog)
    (ahead : l.account.sequence < n.sequence) :
    Recovered order l 2 [n.sequence, l.account.sequence] result n' l' := by
  obtain ⟨e, he, ⟨hone, _⟩ | ⟨_, m, later, rest⟩⟩ :=
    h.first_refused fee operation enforcing ahead
  · omega
  · rw [← he]
    exact (rest.recovered_of_level fee operation plain below clean rfl).after_refused

/-- Every submission of an order that may be signed, on a ledger that enforces sequences, is decided
by the answer that stands next in the script, if that is no mismatch. It takes one broadcast, or two
if the wallet is ahead, and leaves the wallet and the ledger at one sequence. -/
theorem submit_recovered (order : Order) (s : Scene Scripted) (fee : order.fee.check = .ok ())
    (operation : order.operation.check = .ok ()) (plain : s.session.conflictCodes = [])
    (budget : 2 ≤ s.session.backoff.maxAttempts.toNat) (enforcing : s.world.ledger.enforcing = true)
    (below : s.world.ledger.account.sequence < Counters.lastSequence)
    (clean : ∀ r, s.world.ledger.next = .ok r → r.rawLog ≠ mismatchLog) :
    let l := s.world.ledger
    let w := s.session.wallet.sequence
    let result := (submit Scripted.client order s).1
    let t := (submit Scripted.client order s).2
    (w ≤ l.account.sequence →
      Recovered order l 1 [l.account.sequence] result t.session.wallet.counters t.world.ledger) ∧
    (l.account.sequence < w →
      Recovered order l 2 [w, l.account.sequence] result t.session.wallet.counters
        t.world.ledger) := by
  obtain ⟨heard, n', _, hs, hcourse⟩ := submit_course Scripted.client order s
  simp only [hs]
  constructor
  · intro behind
    exact hcourse.recovered_of_level fee operation plain below clean (adopted_sequence _ behind)
  · intro ahead
    exact hcourse.recovered_of_ahead fee operation plain budget enforcing below clean ahead

/-- A wallet at the last sequence, on a ledger that is at the seventh and rejects in a block. -/
def aheadScene : Scene Scripted where
  session := withCounters leastSession ⟨1, Counters.lastSequence⟩
  world := { ledger := {
    chainId := "localterra", enforcing := true, account := ⟨1, 7⟩
    script := [.ok { height := 5, code := 9 }, .ok mismatch] } }

theorem submit_recovered_ahead :
    let t := (submit Scripted.client leastOrder aheadScene).2
    leastOrder.fee.check = .ok () ∧ leastOrder.operation.check = .ok () ∧
      aheadScene.session.conflictCodes = [] ∧
      2 ≤ aheadScene.session.backoff.maxAttempts.toNat ∧
      aheadScene.world.ledger.enforcing = true ∧
      aheadScene.world.ledger.account.sequence < Counters.lastSequence ∧
      (∀ r, aheadScene.world.ledger.next = .ok r → r.rawLog ≠ mismatchLog) ∧
      Recovered leastOrder aheadScene.world.ledger 2 [Counters.lastSequence, 7]
        (submit Scripted.client leastOrder aheadScene).1 t.session.wallet.counters
        t.world.ledger := by
  have hclean : ∀ r, aheadScene.world.ledger.next = .ok r → r.rawLog ≠ mismatchLog := by
    rintro _ ⟨⟩
    decide
  exact ⟨rfl, rfl, rfl, by decide, rfl, by decide, hclean,
    (submit_recovered leastOrder aheadScene rfl rfl rfl (by decide) rfl (by decide) hclean).2
      (by decide)⟩

end TxDispatch.Proofs
