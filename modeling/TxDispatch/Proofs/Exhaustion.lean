import TxDispatch.Proofs.Recovery

namespace TxDispatch.Proofs

open Scene Scripted

/-- Says that conflicts used up a budget, be it the result of a submission or an answer of the ledger,
which may give any failure. -/
def Exhausted {α : Type} (result : Except Failure α) : Prop :=
  ∃ n, result = .error (.retryExhausted n)

/-- The wallet is ahead of the ledger, and the budget ends with the broadcast that shows it. -/
def Wedged (s : Session) (l : Scripted) : Prop :=
  s.backoff.maxAttempts.toNat = 1 ∧ l.account.sequence < s.wallet.sequence

/-- An order that may be signed, and a session that takes no code for a conflict on a ledger that
enforces sequences and has no mismatch in its script. -/
structure Enforced (order : Order) (s : Scene Scripted) : Prop where
  fee : order.fee.check = .ok ()
  operation : order.operation.check = .ok ()
  plain : s.session.conflictCodes = []
  enforcing : s.world.ledger.enforcing = true
  clean : ∀ r, .ok r ∈ s.world.ledger.script → r.rawLog ≠ mismatchLog

theorem Enforced.cleanNext {order : Order} {s : Scene Scripted} (h : Enforced order s) (r : Receipt)
    (hr : s.world.ledger.next = .ok r) : r.rawLog ≠ mismatchLog := by
  apply h.clean r
  cases hs : s.world.ledger.script with
  | nil => simp [next, hs] at hr
  | cons answer rest =>
    simp only [next, hs, List.headD_cons] at hr
    exact hr ▸ .head rest

theorem Returned.exhausted_iff {order : Order} {made : UInt32} {answer : Except Failure Receipt}
    {result : Except Failure Submission} (h : Returned order made answer result) :
    Exhausted result ↔ Exhausted answer := by
  cases h <;> simp [Exhausted]

/-- A round whose lookup brings the wallet level with the ledger gives up only if the ledger says so,
and then it has moved neither. -/
theorem Course.exhausted_of_level {s : Session} {order : Order} {k : Nat} {n n' : Counters}
    {l l' : Scripted} {heard : List Contact} {result : Except Failure Submission}
    (h : Course Scripted.client s order k n l heard result n' l')
    (fee : order.fee.check = .ok ()) (operation : order.operation.check = .ok ())
    (plain : s.conflictCodes = []) (clean : ∀ r, l.next = .ok r → r.rawLog ≠ mismatchLog)
    (level : (adopted (0 < k) n l.account).sequence = l.account.sequence) :
    (Exhausted result ↔ Exhausted l.next) ∧
      (Exhausted result → n'.sequence = l'.account.sequence) := by
  obtain ⟨m, e, hadmitted, decided, rfl⟩ := h.decided_of_level fee operation plain clean level
  refine ⟨decided.exhausted_iff, ?_⟩
  intro exhausted
  obtain ⟨attempts, hnext⟩ := decided.exhausted_iff.mp exhausted
  rw [hnext]
  exact hadmitted.unmoved (by simp [hnext])

/-- A submission gives up if its wallet is wedged or the ledger says so. Giving up wedges no wallet and
frees none. -/
theorem Course.exhausted_iff {s : Session} {order : Order} {n n' : Counters} {l l' : Scripted}
    {heard : List Contact} {result : Except Failure Submission}
    (h : Course Scripted.client s order 0 n l heard result n' l')
    (fee : order.fee.check = .ok ()) (operation : order.operation.check = .ok ())
    (plain : s.conflictCodes = []) (enforcing : l.enforcing = true)
    (clean : ∀ r, l.next = .ok r → r.rawLog ≠ mismatchLog) :
    (Exhausted result ↔ Wedged (withCounters s n) l ∨ Exhausted l.next) ∧
      (Exhausted result → (Wedged (withCounters s n') l' ↔ Wedged (withCounters s n) l)) := by
  by_cases ahead : l.account.sequence < n.sequence
  -- The first broadcast is refused. If the budget allows a second one, the wallet is level for it.
  · obtain ⟨e, _, ⟨hone, rfl, hn, rfl⟩ | ⟨hmore, m, later, rest⟩⟩ :=
      h.first_refused fee operation enforcing ahead
    · have hwedged : Wedged (withCounters s n) l := ⟨hone, ahead⟩
      have hstill : l.account.sequence < n'.sequence := hn ▸ ahead
      exact ⟨iff_of_true ⟨1, rfl⟩ (.inl hwedged), fun _ => iff_of_true ⟨hone, hstill⟩ hwedged⟩
    · have hroom : ∀ n l, ¬ Wedged (withCounters s n) l :=
        fun _ _ hwedged => Nat.ne_of_gt hmore hwedged.1
      have hiff : Exhausted result ↔ Exhausted l.next :=
        (rest.exhausted_of_level fee operation plain clean rfl).1
      exact ⟨by simpa [hroom] using hiff, fun _ => by simp [hroom]⟩
  · have hfree : ¬ Wedged (withCounters s n) l := fun hwedged => ahead hwedged.2
    obtain ⟨hiff, hlevel⟩ := h.exhausted_of_level fee operation plain clean
      (adopted_sequence _ (UInt64.not_lt.mp ahead))
    refine ⟨by simpa [hfree] using hiff, ?_⟩
    intro exhausted
    refine iff_of_false ?_ hfree
    intro hwedged
    exact absurd hwedged.2 (by simp [withCounters, Wallet.sequence, hlevel exhausted])

theorem submit_exhausted_iff {order : Order} {s : Scene Scripted} (h : Enforced order s) :
    (Exhausted (submit Scripted.client order s).1 ↔
      Wedged s.session s.world.ledger ∨ Exhausted s.world.ledger.next) ∧
    (Exhausted (submit Scripted.client order s).1 →
      (Wedged (submit Scripted.client order s).2.session
          (submit Scripted.client order s).2.world.ledger ↔
        Wedged s.session s.world.ledger)) := by
  obtain ⟨heard, n', _, hs, hcourse⟩ := submit_course Scripted.client order s
  rw [hs]
  exact hcourse.exhausted_iff h.fee h.operation h.plain h.enforcing h.cleanNext

/-- A wedged wallet stays so over every submission, which takes nothing from the script. -/
theorem Wedged.submit {order : Order} {s : Scene Scripted}
    (h : Wedged s.session s.world.ledger) (fee : order.fee.check = .ok ())
    (operation : order.operation.check = .ok ()) (enforcing : s.world.ledger.enforcing = true) :
    (submit Scripted.client order s).1 = .error (.retryExhausted 1) ∧
      Wedged (submit Scripted.client order s).2.session
        (submit Scripted.client order s).2.world.ledger ∧
      (submit Scripted.client order s).2.world.ledger.enforcing = true ∧
      (submit Scripted.client order s).2.world.ledger.script = s.world.ledger.script := by
  obtain ⟨heard, n', _, hs, hcourse⟩ := submit_course Scripted.client order s
  obtain ⟨hone, ahead⟩ := h
  obtain ⟨e, _, ⟨_, hresult, hn, hl⟩ | ⟨hmore, _⟩⟩ :=
    hcourse.first_refused fee operation enforcing ahead
  · rw [hs, hl]
    refine ⟨hresult, ⟨hone, ?_⟩, enforcing, rfl⟩
    rw [Wallet.sequence, withCounters, hn]
    exact ahead
  · omega

/-- Every submission of a run that begins with a wedged wallet gives up after one broadcast, whatever
the script holds. -/
theorem Wedged.submitAll {orders : List Order} {s : Scene Scripted}
    (h : Wedged s.session s.world.ledger) (enforcing : s.world.ledger.enforcing = true)
    (fees : ∀ order ∈ orders, order.fee.check = .ok ())
    (operations : ∀ order ∈ orders, order.operation.check = .ok ())
    {before after : List Order} {order : Order} (split : orders = before ++ order :: after) :
    (Scene.submit Scripted.client order (submitAll Scripted.client before s)).1 =
      .error (.retryExhausted 1) := by
  induction before generalizing orders s with
  | nil =>
    have hmem : order ∈ orders := by simp [split]
    exact (h.submit (fees order hmem) (operations order hmem) enforcing).1
  | cons first before ih =>
    have hmem : first ∈ orders := by simp [split]
    obtain ⟨_, hwedged, henforcing, _⟩ := h.submit (fees first hmem) (operations first hmem) enforcing
    subst split
    exact ih hwedged henforcing (fun x hx => fees x (.tail first hx))
      (fun x hx => operations x (.tail first hx)) rfl

/-- Of two submissions that follow each other without another writer in between, both give up if and
only if the wallet was wedged before them, or the ledger itself answered each of them so. -/
theorem exhausted_twice_iff {first second : Order} {s u : Scene Scripted} (before : Enforced first s)
    (between : Enforced second u)
    (session : u.session = (submit Scripted.client first s).2.session)
    (account : u.world.ledger.account = (submit Scripted.client first s).2.world.ledger.account) :
    Exhausted (submit Scripted.client first s).1 ∧ Exhausted (submit Scripted.client second u).1 ↔
      Wedged s.session s.world.ledger ∨
        (Exhausted s.world.ledger.next ∧ Exhausted u.world.ledger.next) := by
  obtain ⟨hfirst, hkept⟩ := submit_exhausted_iff before
  obtain ⟨hsecond, _⟩ := submit_exhausted_iff between
  have hu : Exhausted (submit Scripted.client first s).1 →
      (Wedged u.session u.world.ledger ↔ Wedged s.session s.world.ledger) := by
    intro exhausted
    rw [← hkept exhausted, Wedged, Wedged, session, account]
  constructor
  · rintro ⟨h₁, h₂⟩
    rw [hsecond, hu h₁] at h₂
    rw [hfirst] at h₁
    by_cases hwedged : Wedged s.session s.world.ledger
    · exact .inl hwedged
    · exact .inr ⟨h₁.resolve_left hwedged, h₂.resolve_left hwedged⟩
  · rintro (hwedged | ⟨h₁, h₂⟩)
    · have hgave := hfirst.mpr (.inl hwedged)
      exact ⟨hgave, hsecond.mpr (.inl ((hu hgave).mpr hwedged))⟩
    · exact ⟨hfirst.mpr (.inr h₁), hsecond.mpr (.inr h₂)⟩

/-- The session with a budget of one and a wallet that ran ahead, on a ledger that would take its next
envelope if it had the ledger's sequence. -/
def driftedScene : Scene Scripted where
  session := { withCounters leastSession ⟨1, 6⟩ with backoff := .of 1 0 0 }
  world := { ledger := {
    chainId := "localterra", enforcing := true, script := [.ok (success 1 [])] } }

def redressedScene : Scene Scripted :=
  let t := (submit Scripted.client leastOrder driftedScene).2
  { t with world := { t.world with ledger := t.world.ledger.pushSuccess [] } }

theorem driftedScene_enforced : Enforced leastOrder driftedScene where
  fee := rfl
  operation := rfl
  plain := rfl
  enforcing := rfl
  clean := by
    intro r hr
    obtain rfl := Except.ok.inj (List.mem_singleton.mp hr)
    decide

theorem redressedScene_enforced : Enforced leastOrder redressedScene where
  fee := rfl
  operation := rfl
  plain := rfl
  enforcing := rfl
  clean := by
    have hscript : redressedScene.world.ledger.script = [.ok (success 1 []), .ok (success 1 [])] :=
      rfl
    intro r hr
    rw [hscript] at hr
    have hr : r = success 1 [] := by simpa using hr
    rw [hr]
    decide

theorem exhausted_twice_iff_redressed :
    Enforced leastOrder driftedScene ∧ Enforced leastOrder redressedScene ∧
      redressedScene.session = (submit Scripted.client leastOrder driftedScene).2.session ∧
      redressedScene.world.ledger.account =
        (submit Scripted.client leastOrder driftedScene).2.world.ledger.account ∧
      (Exhausted (submit Scripted.client leastOrder driftedScene).1 ∧
          Exhausted (submit Scripted.client leastOrder redressedScene).1 ↔
        Wedged driftedScene.session driftedScene.world.ledger ∨
          (Exhausted driftedScene.world.ledger.next ∧ Exhausted redressedScene.world.ledger.next)) :=
  ⟨driftedScene_enforced, redressedScene_enforced, rfl, rfl,
    exhausted_twice_iff driftedScene_enforced redressedScene_enforced rfl rfl⟩

/-- The session gives up on every order, though the ledger would accept each with its own sequence. -/
theorem exhausted_twice :
    Enforced leastOrder driftedScene ∧ Enforced leastOrder redressedScene ∧
      Exhausted (submit Scripted.client leastOrder driftedScene).1 ∧
      Exhausted (submit Scripted.client leastOrder redressedScene).1 :=
  ⟨driftedScene_enforced, redressedScene_enforced, ⟨1, rfl⟩, ⟨1, rfl⟩⟩

end TxDispatch.Proofs
