import Mathlib.Logic.Function.Basic
import TxDispatch.Proofs.Enforcement
import TxDispatch.Proofs.Turns

namespace TxDispatch.Proofs

open Scene

/-- A session with the orders that wait for its lock and the submission that holds it. -/
structure Party where
  session : Session
  waiting : List Order := []
  running : Option Task := none

inductive Occurrence (ι : Type) where
  | began (i : ι) (order : Order)
  | did (i : ι) (deed : Progress)
  | raised (q : UInt64)

structure Crowd (ι : Type) where
  ledger : Scripted
  parties : ι → Party
  history : List (Occurrence ι) := []

/-- What may be done next: hand an order in, give the lock to one that waits, take a turn, or raise the
ledger's sequence. -/
inductive Action (ι : Type) where
  | call (i : ι) (order : Order)
  | lock (i : ι) (place : Nat)
  | turn (i : ι)
  | raise (q : UInt64)

variable {ι : Type} [DecidableEq ι]

namespace Crowd

def update (k : Crowd ι) (i : ι) (p : Party) : Crowd ι :=
  { k with parties := Function.update k.parties i p }

def note (k : Crowd ι) (x : Occurrence ι) (ledger : Scripted) : Crowd ι :=
  { k with ledger, history := k.history ++ [x] }

/-- What comes of an action. One that is not possible comes to nothing: a lock that is taken or that
nobody waits for, a turn of a session without a submission, a sequence that is no higher. -/
def act (k : Crowd ι) : Action ι → Crowd ι
  | .call i order =>
    k.update i { k.parties i with waiting := (k.parties i).waiting ++ [order] }
  | .lock i place =>
    match (k.parties i).running, (k.parties i).waiting[place]? with
    | none, some order =>
      (k.note (.began i order) k.ledger).update i { k.parties i with
        waiting := (k.parties i).waiting.eraseIdx place
        running := some { order } }
    | _, _ => k
  | .turn i =>
    match (k.parties i).running with
    | none => k
    | some t =>
      let u := t.turn Scripted.client (k.parties i).session k.ledger
      (k.note (.did i u.deed) u.ledger).update i
        { k.parties i with session := u.session, running := u.task }
  | .raise q =>
    if k.ledger.account.sequence < q then k.note (.raised q) (k.ledger.setSequence q) else k

def run (k : Crowd ι) (actions : List (Action ι)) : Crowd ι := actions.foldl act k

end Crowd

def Progress.taken? : Progress → Option Envelope
  | .sent e (.ok r) => if Scripted.consumes r then some e else none
  | _ => none

namespace Occurrence

def taken? : Occurrence ι → Option Envelope
  | .did _ deed => deed.taken?
  | _ => none

/-- Somebody else than the session moved the ledger's sequence. -/
def moves (i : ι) : Occurrence ι → Bool
  | .began _ _ => false
  | .did j deed => j ≠ i && deed.taken?.isSome
  | .raised _ => true

def Looks (i : ι) : Occurrence ι → Prop
  | .did j (.looked _) => j = i
  | _ => False

def Starts (i : ι) : Occurrence ι → Prop
  | .began j _ => j = i
  | _ => False

end Occurrence

def taken (xs : List (Occurrence ι)) : List Envelope := xs.filterMap Occurrence.taken?

/-- How often others moved the ledger's sequence. -/
def moves (i : ι) (xs : List (Occurrence ι)) : Nat := xs.countP (Occurrence.moves i)

/-- What came after the latest occurrence of a kind. -/
def Since (p : Occurrence ι → Prop) (xs between : List (Occurrence ι)) : Prop :=
  ∃ earlier x, xs = earlier ++ x :: between ∧ p x ∧ ∀ y ∈ between, ¬ p y

/-- What a submission has to show for giving up after `n` broadcasts: `n` moves of others since it
began, or an answer of the ledger that said just that. -/
def Owed (i : ι) (during : List (Occurrence ι)) (n : UInt32) : Prop :=
  (0 < n ∧ n.toNat ≤ moves i during) ∨
    ∃ e, .did i (.sent e (.error (.retryExhausted n))) ∈ during

/-- What has to have gone before an occurrence: others moved the sequence between the lookup of an
attempt and its mismatch, and a submission that gives up has enough to show for it. -/
def Occurrence.Charged (before : List (Occurrence ι)) : Occurrence ι → Prop
  | .did i (.sent _ (.ok r)) => r.rawLog = mismatchLog →
      ∃ between, Since (Looks i) before between ∧ 0 < Proofs.moves i between
  | .did i (.ended (.error (.retryExhausted n))) =>
      ∃ during, Since (Starts i) before during ∧ Owed i during n
  | _ => True

omit [DecidableEq ι] in
theorem Occurrence.Looks.own {i j : ι} {deed : Progress} (h : (Occurrence.did i deed).Looks j) :
    i = j := by
  cases deed with
  | looked answer => exact h
  | _ => exact h.elim

omit [DecidableEq ι] in
theorem Since.now {p : Occurrence ι → Prop} (xs : List (Occurrence ι)) {x : Occurrence ι} (hx : p x) :
    Since p (xs ++ [x]) [] :=
  ⟨xs, x, rfl, hx, by simp⟩

omit [DecidableEq ι] in
theorem Since.snoc {p : Occurrence ι → Prop} {xs between : List (Occurrence ι)} {x : Occurrence ι}
    (h : Since p xs between) (hx : ¬ p x) : Since p (xs ++ [x]) (between ++ [x]) := by
  obtain ⟨earlier, y, rfl, hy, hno⟩ := h
  refine ⟨earlier, y, by simp, hy, ?_⟩
  intro z hz
  rcases List.mem_append.mp hz with hz | hz
  · exact hno z hz
  · rwa [List.mem_singleton.mp hz]

theorem own_moves (i : ι) (deed : Progress) : (Occurrence.did i deed).moves i = false := by
  simp [Occurrence.moves]

theorem moves_snoc (i : ι) (xs : List (Occurrence ι)) (x : Occurrence ι) :
    moves i (xs ++ [x]) = moves i xs + (x.moves i).toNat := by
  cases h : x.moves i <;> simp [moves, h]

theorem Since.moves_le {p : Occurrence ι → Prop} {xs between : List (Occurrence ι)}
    (h : Since p xs between) (i : ι) : moves i between ≤ moves i xs := by
  obtain ⟨earlier, x, rfl, _, _⟩ := h
  simp only [moves, List.countP_append, List.countP_cons]
  omega

theorem Owed.snoc {i : ι} {during : List (Occurrence ι)} {n : UInt32} (h : Owed i during n)
    (x : Occurrence ι) : Owed i (during ++ [x]) n := by
  rcases h with ⟨hpos, hle⟩ | ⟨e, he⟩
  · refine .inl ⟨hpos, ?_⟩
    rw [moves_snoc]
    omega
  · exact .inr ⟨e, List.mem_append_left _ he⟩

/-- The attempt of a submission after its lookup. Of the moves during the submission, those since the
lookup are not yet charged to an earlier broadcast; without any the wallet is level with the ledger. -/
structure Poised (i : ι) (xs during : List (Occurrence ι)) (q : UInt64) (s : Session) (made : UInt32) :
    Prop where
  left : made < s.backoff.maxAttempts
  level : ∃ between, Since (Occurrence.Looks i) xs between ∧
    made.toNat + moves i between ≤ moves i during ∧
    (moves i between = 0 → s.wallet.sequence = q)

/-- What holds of a submission at each stage, when the ledger is at the sequence `q`. -/
def Stage.Tied (i : ι) (xs during : List (Occurrence ι)) (q : UInt64) (s : Session)
    (made : UInt32) : Stage → Prop
  | .looking => made < s.backoff.maxAttempts ∧ made.toNat ≤ moves i during
  | .signing => Poised i xs during q s made
  | .sending e => Poised i xs during q s made ∧ e.sequence = s.wallet.sequence
  | .settling e r => (0 < made ∧ made ≤ s.backoff.maxAttempts) ∧
      (r.rawLog = mismatchLog → made.toNat ≤ moves i during) ∧
      (Scripted.consumes r = true → e.sequence < q)
  | .ending result => ∀ n, result = .error (.retryExhausted n) → Owed i during n

/-- What holds of a session and its submission when the history is `xs` and the ledger is at `q`. -/
structure Fits (i : ι) (xs : List (Occurrence ι)) (q : UInt64) (s : Session) (running : Option Task) :
    Prop where
  plain : s.conflictCodes = []
  behind : s.wallet.sequence ≤ q
  tied : ∀ t ∈ running, ∃ during, Since (Occurrence.Starts i) xs during ∧
    t.stage.Tied i xs during q s t.made

section Frame

variable {i : ι} {xs during : List (Occurrence ι)} {q q' : UInt64} {s : Session} {x : Occurrence ι}

theorem Poised.snoc {made : UInt32} (h : Poised i xs during q s made) (quiet : ¬ x.Looks i)
    (moved : x.moves i = true ∨ q' = q) : Poised i (xs ++ [x]) (during ++ [x]) q' s made := by
  obtain ⟨left, between, hsince, hle, hlevel⟩ := h
  refine ⟨left, between ++ [x], hsince.snoc quiet, ?_, ?_⟩
  · rw [moves_snoc, moves_snoc]
    omega
  · rw [moves_snoc]
    intro hzero
    have hstill : x.moves i = false := by
      cases hx : x.moves i with
      | false => rfl
      | true => simp [hx] at hzero
    rcases moved with hmoved | rfl
    · simp [hstill] at hmoved
    · exact hlevel (by omega)

/-- What another does to the ledger leaves a submission as it is. -/
theorem Stage.Tied.snoc {made : UInt32} {stage : Stage} (h : stage.Tied i xs during q s made)
    (quiet : ¬ x.Looks i) (moved : x.moves i = true ∨ q' = q) (rises : q ≤ q') :
    stage.Tied i (xs ++ [x]) (during ++ [x]) q' s made := by
  have hmoves : moves i during ≤ moves i (during ++ [x]) := by
    rw [moves_snoc]
    omega
  cases stage with
  | looking => exact ⟨h.1, Nat.le_trans h.2 hmoves⟩
  | signing => exact Poised.snoc h quiet moved
  | sending e => exact ⟨h.1.snoc quiet moved, h.2⟩
  | settling e r =>
    obtain ⟨hmade, hlost, hused⟩ := h
    exact ⟨hmade, fun hr => Nat.le_trans (hlost hr) hmoves,
      fun hr => UInt64.lt_of_lt_of_le (hused hr) rises⟩
  | ending result => exact fun n hn => (h n hn).snoc x

theorem Fits.snoc {running : Option Task} (h : Fits i xs q s running) (quiet : ¬ x.Looks i)
    (unlocked : ¬ x.Starts i) (moved : x.moves i = true ∨ q' = q) (rises : q ≤ q') :
    Fits i (xs ++ [x]) q' s running := by
  refine ⟨h.plain, UInt64.le_trans h.behind rises, ?_⟩
  intro t ht
  obtain ⟨during, hsince, htied⟩ := h.tied t ht
  exact ⟨during ++ [x], hsince.snoc unlocked, htied.snoc quiet moved rises⟩

end Frame

end TxDispatch.Proofs
