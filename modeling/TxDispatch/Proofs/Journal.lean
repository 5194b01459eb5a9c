import TxDispatch.Proofs.Course

namespace TxDispatch.Proofs

open Scene

variable {σ : Type}

def envelopes (heard : List Contact) : List Envelope :=
  heard.filterMap fun x => match x with
    | .sent e _ => some e
    | _ => none

@[simp] theorem envelopes_nil : envelopes [] = [] := rfl

@[simp] theorem envelopes_looked (a : String) (answer : Except Failure AccountInfo)
    (heard : List Contact) : envelopes (.looked a answer :: heard) = envelopes heard := rfl

@[simp] theorem envelopes_sent (e : Envelope) (answer : Except Failure Receipt)
    (heard : List Contact) : envelopes (.sent e answer :: heard) = e :: envelopes heard := rfl

@[simp] theorem envelopes_rested (ms : UInt64) (heard : List Contact) :
    envelopes (.rested ms :: heard) = envelopes heard := rfl

@[simp] theorem envelopes_append (xs ys : List Contact) :
    envelopes (xs ++ ys) = envelopes xs ++ envelopes ys :=
  List.filterMap_append

/-- Contacts with a client that lead its ledger from one state to another. Each holds what the
client answers in the state that it is asked in. -/
inductive Dealt (c : Client σ) (address : String) (secs : UInt64) : σ → List Contact → σ → Prop where
  | done {l} : Dealt c address secs l [] l
  | looked {l heard l'} (rest : Dealt c address secs (c.account address l).2 heard l') :
      Dealt c address secs l (.looked address (c.account address l).1 :: heard) l'
  | sent {l e heard l'} (rest : Dealt c address secs (answered c secs e l).2 heard l') :
      Dealt c address secs l (.sent e (answered c secs e l).1 :: heard) l'
  | rested {l ms heard l'} (rest : Dealt c address secs l heard l') :
      Dealt c address secs l (.rested ms :: heard) l'

theorem Dealt.append {c : Client σ} {address : String} {secs : UInt64} {l l' l'' : σ}
    {xs ys : List Contact} (hx : Dealt c address secs l xs l') (hy : Dealt c address secs l' ys l'') :
    Dealt c address secs l (xs ++ ys) l'' := by
  induction hx with
  | done => exact hy
  | looked _ ih => exact .looked (ih hy)
  | sent _ ih => exact .sent (ih hy)
  | rested _ ih => exact .rested (ih hy)

/-- Every broadcast in a journal was answered in the state that the contacts before it lead to. -/
theorem Dealt.at_sent {c : Client σ} {address : String} {secs : UInt64} {l l' : σ}
    {before after : List Contact} {e : Envelope} {answer : Except Failure Receipt}
    (h : Dealt c address secs l (before ++ .sent e answer :: after) l') :
    ∃ m, Dealt c address secs l before m ∧ answer = (answered c secs e m).1 := by
  induction before generalizing l with
  | nil =>
    cases h
    exact ⟨l, .done, rfl⟩
  | cons x before ih =>
    cases h with
    | looked rest =>
      obtain ⟨m, hm, ha⟩ := ih rest
      exact ⟨m, .looked hm, ha⟩
    | sent rest =>
      obtain ⟨m, hm, ha⟩ := ih rest
      exact ⟨m, .sent hm, ha⟩
    | rested rest =>
      obtain ⟨m, hm, ha⟩ := ih rest
      exact ⟨m, .rested hm, ha⟩

/-- A scene after another of the same session, with what was heard on the way. -/
structure Leads (c : Client σ) (s : Scene σ) (heard : List Contact) (t : Scene σ) : Prop where
  journal : t.world.journal = s.world.journal ++ heard
  dealt : Dealt c s.session.wallet.account s.session.attemptTimeout s.world.ledger heard
    t.world.ledger

theorem Try.dealt {c : Client σ} {s : Session} {order : Order} {conflicted : Bool} {n m : Counters}
    {l l' l'' : σ} {info : AccountInfo} {e : Envelope} {answer : Except Failure Receipt}
    {heard : List Contact} (made : Try c s order conflicted n l info m e answer l')
    (rest : Dealt c s.wallet.account s.attemptTimeout l' heard l'') :
    Dealt c s.wallet.account s.attemptTimeout l
      (.looked s.wallet.account (.ok info) :: .sent e answer :: heard) l'' := by
  rw [← made.looked]
  apply Dealt.looked
  have ha : answer =
      (answered c s.attemptTimeout e (c.account s.wallet.account l).2).1 := by rw [made.sent]
  rw [ha]
  apply Dealt.sent
  rw [made.sent]
  exact rest

/-- Nothing is heard on the course of a submission but the client's answers. -/
theorem Course.dealt {c : Client σ} {s : Session} {order : Order} {k : Nat} {n n' : Counters}
    {l l' : σ} {heard : List Contact} {result : Except Failure Submission}
    (h : Course c s order k n l heard result n' l') :
    Dealt c s.wallet.account s.attemptTimeout l heard l' := by
  induction h with
  | unanswered looked => rw [← looked]; exact .looked .done
  | refused looked _ => rw [← looked]; exact .looked .done
  | unsent made | rejected made _ | succeeded made _ | exhausted made _ _ => exact made.dealt .done
  | again made _ _ _ ih => exact made.dealt (.rested ih)

/-- The envelope that is signed does not decide whether an order is refused. -/
theorem sealed_eq_ok_iff {s : Session} {order : Order} {n : Counters} :
    (∃ e, sealed s order n = .ok e) ↔
      order.fee.check = .ok () ∧ order.operation.check = .ok () := by
  unfold sealed Envelope.build
  cases order.fee.check <;> cases order.operation.check <;> simp

theorem sealed_ne_error {s : Session} {order : Order} {n : Counters} {f : Failure}
    (fee : order.fee.check = .ok ()) (operation : order.operation.check = .ok ()) :
    sealed s order n ≠ .error f := by
  obtain ⟨e, he⟩ : ∃ e, sealed s order n = .ok e := sealed_eq_ok_iff.mpr ⟨fee, operation⟩
  simp [he]

/-- Why an envelope is refused: for its fee, and only with a fee in order for its operation. -/
theorem sealed_error {s : Session} {order : Order} {n : Counters} {f : Failure}
    (h : sealed s order n = .error f) :
    (∃ e, order.fee.check = .error e ∧ f = .invalidFee e.message) ∨
      order.fee.check = .ok () ∧ ∃ e, order.operation.check = .error e ∧
        f = .invalidOperation e.message := by
  unfold sealed Envelope.build at h
  cases hfee : order.fee.check with
  | error e =>
    simp only [hfee] at h
    exact .inl ⟨e, rfl, (Except.error.inj h).symm⟩
  | ok _ =>
    cases hoperation : order.operation.check with
    | error e =>
      simp only [hfee, hoperation] at h
      exact .inr ⟨rfl, e, rfl, (Except.error.inj h).symm⟩
    | ok _ =>
      simp only [hfee, hoperation] at h
      cases h

/-- A broadcast within a round and what follows it stands at the round's own broadcast or later. -/
theorem round_split {a : String} {looked : Except Failure AccountInfo} {e e' : Envelope}
    {answer answer' : Except Failure Receipt} {tail before after : List Contact}
    (h : .looked a looked :: .sent e answer :: tail = before ++ .sent e' answer' :: after) :
    (before = [.looked a looked] ∧ e' = e ∧ answer' = answer ∧ after = tail) ∨
      ∃ later, before = .looked a looked :: .sent e answer :: later ∧
        tail = later ++ .sent e' answer' :: after := by
  match before with
  | [] => simp at h
  | [x] => simp_all
  | x :: y :: later =>
    simp only [List.cons_append, List.cons.injEq] at h
    obtain ⟨rfl, rfl, ht⟩ := h
    exact .inr ⟨later, rfl, ht⟩

/-- What stands in a journal behind the `j`th broadcast: nothing, unless it ended in a conflict with
budget left, and then a rest and the course of the rounds that are left. -/
inductive Onward (c : Client σ) (s : Session) (order : Order) (j : Nat) (m : Counters) (l : σ)
    (result : Except Failure Submission) (n' : Counters) (l' : σ) :
    Except Failure Receipt → List Contact → Prop where
  | ended {answer} (last : ∀ r, answer = .ok r → r.verdict s.conflictCodes = .conflict →
      j = s.backoff.maxAttempts.toNat) : Onward c s order j m l result n' l' answer []
  | again {r ms later} (conflict : r.verdict s.conflictCodes = .conflict)
      (left : j < s.backoff.maxAttempts.toNat) (rest : Course c s order j m l later result n' l') :
      Onward c s order j m l result n' l' (.ok r) (.rested ms :: later)

/-- Directly before every broadcast the account was looked up, and the envelope was signed with the
counters after that lookup. -/
theorem Course.at_sent {c : Client σ} {s : Session} {order : Order} {k : Nat} {n n' : Counters}
    {l l' : σ} {heard before after : List Contact} {result : Except Failure Submission}
    {e : Envelope} {answer : Except Failure Receipt} (h : Course c s order k n l heard result n' l')
    (hs : heard = before ++ .sent e answer :: after) :
    ∃ earlier info n₁ l₁ m l₂, before = earlier ++ [.looked s.wallet.account (.ok info)] ∧
      (envelopes earlier = [] → n₁ = n) ∧
      Try c s order (0 < k + (envelopes earlier).length) n₁ l₁ info m e answer l₂ ∧
      Onward c s order (k + (envelopes earlier).length + 1) m l₂ result n' l' answer after := by
  induction h generalizing before with
  | unanswered _ | refused _ _ =>
    have hmem : Contact.sent e answer ∈ before ++ .sent e answer :: after := by simp
    rw [← hs] at hmem
    simp at hmem
  | unsent made =>
    rcases round_split hs with ⟨rfl, rfl, rfl, rfl⟩ | ⟨later, rfl, ht⟩
    · exact ⟨[], _, _, _, _, _, rfl, fun _ => rfl, made, .ended (by simp)⟩
    · simp at ht
  | rejected made hv =>
    rcases round_split hs with ⟨rfl, rfl, rfl, rfl⟩ | ⟨later, rfl, ht⟩
    · exact ⟨[], _, _, _, _, _, rfl, fun _ => rfl, made, .ended (by simp_all)⟩
    · simp at ht
  | succeeded made hv =>
    rcases round_split hs with ⟨rfl, rfl, rfl, rfl⟩ | ⟨later, rfl, ht⟩
    · exact ⟨[], _, _, _, _, _, rfl, fun _ => rfl, made, .ended (by simp_all)⟩
    · simp at ht
  | exhausted made hv spent =>
    rcases round_split hs with ⟨rfl, rfl, rfl, rfl⟩ | ⟨later, rfl, ht⟩
    · exact ⟨[], _, _, _, _, _, rfl, fun _ => rfl, made, .ended (fun _ _ _ => spent)⟩
    · simp at ht
  | again made hv left rest ih =>
    rcases round_split hs with ⟨rfl, rfl, rfl, rfl⟩ | ⟨later, rfl, ht⟩
    · exact ⟨[], _, _, _, _, _, rfl, fun _ => rfl, made, .again hv left rest⟩
    · cases later with
      | nil => simp at ht
      | cons x later =>
        simp only [List.cons_append, List.cons.injEq] at ht
        obtain ⟨rfl, ht⟩ := ht
        obtain ⟨earlier, info, n₁, l₁, m, l₂, rfl, _, htry, honward⟩ := ih ht
        refine ⟨_ :: _ :: _ :: earlier, info, n₁, l₁, m, l₂, rfl, by simp, ?_⟩
        simp only [envelopes_looked, envelopes_sent, envelopes_rested, List.length_cons]
        have hj : ∀ i j : Nat, i + 1 + j = i + (j + 1) := by omega
        rw [hj] at htry honward
        exact ⟨htry, honward⟩

/-- An answer that is no conflict is the last thing heard, and the session and the result are what
settling it makes of them. -/
theorem Course.settled {c : Client σ} {s : Session} {order : Order} {k : Nat} {n n' : Counters}
    {l l' : σ} {heard before after : List Contact} {result : Except Failure Submission}
    {e : Envelope} {r : Receipt} (h : Course c s order k n l heard result n' l')
    (hs : heard = before ++ .sent e (.ok r) :: after)
    (settles : r.verdict s.conflictCodes ≠ .conflict) :
    after = [] ∧ ∃ m made, sealed s order m = .ok e ∧
      (withCounters s m).settle order made e r = (withCounters s n', some result) := by
  induction h generalizing before with
  | unanswered _ | refused _ _ =>
    have hmem : Contact.sent e (.ok r) ∈ before ++ .sent e (.ok r) :: after := by simp
    rw [← hs] at hmem
    simp at hmem
  | unsent made =>
    rcases round_split hs with ⟨_, _, ha, _⟩ | ⟨later, _, ht⟩
    · cases ha
    · simp at ht
  | @rejected k n l info m e' r' l' made failed =>
    rcases round_split hs with ⟨_, rfl, ha, rfl⟩ | ⟨later, _, ht⟩
    · cases ha
      exact ⟨rfl, m, .ofNat (k + 1), made.signed, by rw [settle_shape, failed]⟩
    · simp at ht
  | @succeeded k n l info m e' r' l' made success =>
    rcases round_split hs with ⟨_, rfl, ha, rfl⟩ | ⟨later, _, ht⟩
    · cases ha
      exact ⟨rfl, m, .ofNat (k + 1), made.signed, by rw [settle_shape, success]⟩
    · simp at ht
  | exhausted made conflict spent =>
    rcases round_split hs with ⟨_, _, ha, _⟩ | ⟨later, _, ht⟩
    · cases ha
      exact absurd conflict settles
    · simp at ht
  | again made conflict left rest ih =>
    rcases round_split hs with ⟨_, _, ha, _⟩ | ⟨later, _, ht⟩
    · cases ha
      exact absurd conflict settles
    · cases later with
      | nil => simp at ht
      | cons x later =>
        simp only [List.cons_append, List.cons.injEq] at ht
        exact ih ht.2

/-- A broadcast that fails is the last thing heard, and its failure is the result. -/
theorem Course.unsent_last {c : Client σ} {s : Session} {order : Order} {k : Nat}
    {n n' : Counters} {l l' : σ} {heard before after : List Contact}
    {result : Except Failure Submission} {e : Envelope} {f : Failure}
    (h : Course c s order k n l heard result n' l')
    (hs : heard = before ++ .sent e (.error f) :: after) : after = [] ∧ result = .error f := by
  induction h generalizing before with
  | unanswered _ | refused _ _ =>
    have hmem : Contact.sent e (.error f) ∈ before ++ .sent e (.error f) :: after := by simp
    rw [← hs] at hmem
    simp at hmem
  | unsent made =>
    rcases round_split hs with ⟨_, _, ha, rfl⟩ | ⟨later, _, ht⟩
    · exact ⟨rfl, congrArg Except.error (Except.error.inj ha).symm⟩
    · simp at ht
  | rejected made _ | succeeded made _ | exhausted made _ _ =>
    rcases round_split hs with ⟨_, _, ha, _⟩ | ⟨later, _, ht⟩
    · cases ha
    · simp at ht
  | again made _ _ _ ih =>
    rcases round_split hs with ⟨_, _, ha, _⟩ | ⟨later, _, ht⟩
    · cases ha
    · cases later with
      | nil => simp at ht
      | cons x later =>
        simp only [List.cons_append, List.cons.injEq] at ht
        exact ih ht.2

/-- The envelopes of a submission are signed for its order. -/
theorem Course.signed {c : Client σ} {s : Session} {order : Order} {k : Nat} {n n' : Counters}
    {l l' : σ} {heard : List Contact} {result : Except Failure Submission}
    (h : Course c s order k n l heard result n' l') :
    ∀ e ∈ envelopes heard, ∃ m, sealed s order m = .ok e := by
  induction h with
  | unanswered _ | refused _ _ => simp
  | unsent made | rejected made _ | succeeded made _ | exhausted made _ _ =>
    simpa using ⟨_, made.signed⟩
  | again made _ _ _ ih => simpa using ⟨⟨_, made.signed⟩, ih⟩

end TxDispatch.Proofs
