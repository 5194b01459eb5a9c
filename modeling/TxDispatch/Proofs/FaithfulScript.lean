import Mathlib.Algebra.Group.Nat.Defs
import Mathlib.Data.List.Nodup
import Mathlib.Data.List.Perm.Basic
import TxDispatch.Proofs.Enforcement
import TxDispatch.Proofs.PercentCoding

namespace TxDispatch

open Text

namespace Scripted

theorem bytesOfNat_succ (size n : Nat) : Crypto.bytesOfNat (size + 1) n =
    UInt8.ofNat (n >>> (8 * size)) :: Crypto.bytesOfNat size n := by
  simp [Crypto.bytesOfNat, List.range_succ]

/-- Bytes tell a number up to their count. -/
theorem mod_of_bytesOfNat {size n m : Nat}
    (h : Crypto.bytesOfNat size n = Crypto.bytesOfNat size m) :
    n % 256 ^ size = m % 256 ^ size := by
  induction size with
  | zero => simp [Nat.mod_one]
  | succ size ih =>
    rw [bytesOfNat_succ, bytesOfNat_succ, List.cons.injEq] at h
    have hhead : n / 256 ^ size % 256 = m / 256 ^ size % 256 := by
      have htop := congrArg UInt8.toNat h.1
      simpa [UInt8.toNat_ofNat', Nat.shiftRight_eq_div_pow, Nat.pow_mul] using htop
    rw [Nat.pow_succ, Nat.mod_mul, Nat.mod_mul, hhead, ih h.2]

/-- Digits in upper case are read as the bytes that were written. -/
theorem decode?_upper (bytes : List UInt8) :
    Hex.decode? ((Hex.encode bytes).map Char.toUpper) = some bytes := by
  have hdigit : ∀ n < 16, Hex.worth? (Quoted.hexDigit n).toUpper = some n := by decide
  induction bytes with
  | nil => rfl
  | cons b bytes ih =>
    have hhigh := hdigit (b.toNat / 16) (by have := b.toNat_lt; omega)
    have hlow := hdigit (b.toNat % 16) (by omega)
    have hbyte : UInt8.ofNat (16 * (b.toNat / 16) + b.toNat % 16) = b := by
      rw [Nat.div_add_mod, UInt8.ofNat_toNat]
    rw [Hex.encode, List.flatMap_cons, ← Hex.encode]
    simp only [Hex.pair, List.cons_append, List.nil_append, List.map_cons, Hex.decode?, hhigh, hlow,
      ih, Option.bind_eq_bind, Option.bind_some, hbyte]
    rfl

/-- Transactions in different blocks have different hashes. -/
theorem hashOfHeight_injective : Function.Injective hashOfHeight := by
  intro a b h
  have hbytes : Crypto.bytesOfNat 32 a.toNat = Crypto.bytesOfNat 32 b.toNat := by
    have hdigits := congrArg Hex.decode? (String.ofList_inj.mp h)
    rw [decode?_upper, decode?_upper] at hdigits
    exact Option.some.inj hdigits
  have hmod := mod_of_bytesOfNat hbytes
  have hbound : ∀ w : UInt64, w.toNat % 256 ^ 32 = w.toNat := fun w =>
    Nat.mod_eq_of_lt (Nat.lt_trans w.toNat_lt (by decide))
  rw [hbound, hbound] at hmod
  exact UInt64.toNat_inj.mp hmod

/-- How an envelope is received: it is refused for its sequence, or served from the script, or the
script has nothing for it. -/
inductive Reception where
  | refused
  | served
  | unserved
deriving DecidableEq

def reception (l : Scripted) (e : Envelope) : Reception :=
  if l.enforcing && e.sequence != l.account.sequence then .refused
  else if l.script.isEmpty then .unserved
  else .served

def unscripted : Except Failure Receipt := .error (.rpc "mock ledger has no scripted response")

theorem settle_eq (l : Scripted) (r : Receipt) :
    l.settle r = { l with account := l.accountAfter (.ok r) } := by
  by_cases h : consumes r = true <;> simp [settle, setSequence, accountAfter, h]

inductive Received (l : Scripted) (e : Envelope) :
    Reception → Except Failure Receipt → Scripted → Prop where
  | refused (enforcing : l.enforcing = true) (stale : e.sequence ≠ l.account.sequence) :
    Received l e .refused (.ok mismatch) { l with broadcasts := l.broadcasts ++ [e] }
  | served {answer rest} (admitted : l.enforcing = true → e.sequence = l.account.sequence)
    (next : l.script = answer :: rest) :
    Received l e .served answer { l with
      broadcasts := l.broadcasts ++ [e], script := rest, account := l.accountAfter answer }
  | unserved (admitted : l.enforcing = true → e.sequence = l.account.sequence)
    (empty : l.script = []) :
    Received l e .unserved unscripted { l with broadcasts := l.broadcasts ++ [e] }

theorem receive_cases (l : Scripted) (e : Envelope) :
    Received l e (reception l e) (l.receive e).1 (l.receive e).2 := by
  by_cases hstale : l.enforcing = true ∧ e.sequence ≠ l.account.sequence
  · obtain ⟨henforcing, hne⟩ := hstale
    rw [receive_refused henforcing hne]
    have hrefused : reception l e = .refused := by simp [reception, henforcing, hne]
    exact hrefused ▸ .refused henforcing hne
  · have hadmitted : l.enforcing = true → e.sequence = l.account.sequence := fun henforcing =>
      Decidable.byContradiction fun hne => hstale ⟨henforcing, hne⟩
    have hpass : (l.enforcing && e.sequence != l.account.sequence) = false := by
      cases henforcing : l.enforcing <;> simp [hadmitted, henforcing]
    cases hscript : l.script with
    | nil =>
      have hreceive : l.receive e = (unscripted, { l with broadcasts := l.broadcasts ++ [e] }) := by
        simp [receive, hpass, hscript, unscripted]
      have hunserved : reception l e = .unserved := by simp [reception, hpass, hscript]
      rw [hreceive]
      exact hunserved ▸ .unserved hadmitted hscript
    | cons answer rest =>
      have hreceive : l.receive e = (answer, { l with
          broadcasts := l.broadcasts ++ [e], script := rest,
          account := l.accountAfter answer }) := by
        cases answer <;> simp [receive, hpass, hscript, settle_eq, accountAfter]
      have hserved : reception l e = .served := by simp [reception, hpass, hscript]
      rw [hreceive]
      exact hserved ▸ .served hadmitted hscript

end Scripted

namespace Proofs

open Scripted (Reception Received reception unscripted uses mismatch success)

/-- The calls to a scripted ledger. A success is pushed in two steps, in which it draws a height and
then joins the script. They are one call, or else others come between the two. -/
inductive ScriptCall where
  | push (answer : Except Failure Receipt)
  | pushMismatch
  | pushSuccess (events : List Event)
  | draw (events : List Event)
  | deliver (place : Nat)
  | look (address : String)
  | broadcast (e : Envelope)

inductive Effect where
  | pushed (answer : Except Failure Receipt)
  | drew (r : Receipt)
  | delivered (r : Receipt)
  | told (answer : Except Failure AccountInfo)
  | answered (e : Envelope) (how : Reception) (answer : Except Failure Receipt)

/-- A scripted ledger with the successes that have a height and are not in the script yet, and with
the history of its calls. -/
structure Traffic where
  ledger : Scripted
  drawn : List Receipt := []
  history : List Effect := []

namespace Traffic

def start (chainId : String) (enforcing : Bool) : Traffic := ⟨{ chainId, enforcing }, [], []⟩

def note (t : Traffic) (x : Effect) (ledger : Scripted) (drawn : List Receipt) : Traffic :=
  ⟨ledger, drawn, t.history ++ [x]⟩

/-- A call takes effect. Nothing is delivered from a place where no success waits. -/
def act (t : Traffic) : ScriptCall → Traffic
  | .push answer => t.note (.pushed answer) (t.ledger.push answer) t.drawn
  | .pushMismatch => t.note (.pushed (.ok mismatch)) t.ledger.pushMismatch t.drawn
  | .pushSuccess events =>
    let r := success t.ledger.nextHeight events
    (t.note (.drew r) t.ledger t.drawn).note (.delivered r) (t.ledger.pushSuccess events) t.drawn
  | .draw events =>
    let r := success t.ledger.nextHeight events
    t.note (.drew r) { t.ledger with nextHeight := t.ledger.nextHeight + 1 } (t.drawn ++ [r])
  | .deliver place =>
    match t.drawn[place]? with
    | none => t
    | some r => t.note (.delivered r) (t.ledger.push (.ok r)) (t.drawn.eraseIdx place)
  | .look address =>
    let (answer, ledger) := Scripted.client.account address t.ledger
    t.note (.told answer) ledger t.drawn
  | .broadcast e =>
    let (answer, ledger) := t.ledger.receive e
    t.note (.answered e (reception t.ledger e) answer) ledger t.drawn

def run (t : Traffic) (calls : List ScriptCall) : Traffic := calls.foldl act t

/-- A success that is drawn and at once delivered is pushed. -/
theorem act_pushSuccess (t : Traffic) (events : List Event) :
    t.act (.pushSuccess events) = (t.act (.draw events)).act (.deliver t.drawn.length) := by
  simp [act, note, Scripted.pushSuccess, List.eraseIdx_append_of_length_le]

end Traffic

namespace Effect

def pushed? : Effect → Option (Except Failure Receipt)
  | pushed answer => some answer
  | delivered r => some (.ok r)
  | _ => none

def served? : Effect → Option (Except Failure Receipt)
  | answered _ .served answer => some answer
  | _ => none

def taken? : Effect → Option Envelope
  | answered e _ answer => if uses answer then some e else none
  | _ => none

def drew? : Effect → Option Receipt
  | drew r => some r
  | _ => none

def delivered? : Effect → Option Receipt
  | delivered r => some r
  | _ => none

end Effect

def ScriptCall.envelope? : ScriptCall → Option Envelope
  | broadcast e => some e
  | _ => none

namespace Traffic

variable (t : Traffic)

def pushed : List (Except Failure Receipt) := t.history.filterMap Effect.pushed?

def served : List (Except Failure Receipt) := t.history.filterMap Effect.served?

def taken : List Envelope := t.history.filterMap Effect.taken?

def successes : List Receipt := t.history.filterMap Effect.drew?

def delivered : List Receipt := t.history.filterMap Effect.delivered?

variable {t} {x : Effect} {l : Scripted} {drawn : List Receipt} {enforcing : Bool}

@[simp] theorem note_ledger : (t.note x l drawn).ledger = l := rfl

@[simp] theorem note_drawn : (t.note x l drawn).drawn = drawn := rfl

@[simp] theorem note_pushed : (t.note x l drawn).pushed = t.pushed ++ x.pushed?.toList := by
  cases h : x.pushed? <;> simp [pushed, note, h]

@[simp] theorem note_served : (t.note x l drawn).served = t.served ++ x.served?.toList := by
  cases h : x.served? <;> simp [served, note, h]

@[simp] theorem note_taken : (t.note x l drawn).taken = t.taken ++ x.taken?.toList := by
  cases h : x.taken? <;> simp [taken, note, h]

@[simp] theorem note_successes : (t.note x l drawn).successes = t.successes ++ x.drew?.toList := by
  cases h : x.drew? <;> simp [successes, note, h]

@[simp] theorem note_delivered :
    (t.note x l drawn).delivered = t.delivered ++ x.delivered?.toList := by
  cases h : x.delivered? <;> simp [delivered, note, h]

theorem act_broadcast (t : Traffic) (e : Envelope) : ∃ how answer l,
    Received t.ledger e how answer l ∧
      t.act (.broadcast e) = t.note (.answered e how answer) l t.drawn :=
  ⟨_, _, _, Scripted.receive_cases t.ledger e, rfl⟩

def Queued (t : Traffic) : Prop := t.pushed = t.served ++ t.ledger.script

theorem Queued.act (h : Queued t) (c : ScriptCall) : Queued (t.act c) := by
  unfold Queued at *
  cases c with
  | push | pushMismatch | draw | look =>
    simp [Traffic.act, Effect.pushed?, Effect.served?, h, Scripted.push, Scripted.pushMismatch,
      Scripted.client]
  | pushSuccess events =>
    simp [Traffic.act, Effect.pushed?, Effect.served?, h, Scripted.push, Scripted.pushSuccess]
  | deliver place =>
    simp only [Traffic.act]
    split <;> simp [Effect.pushed?, Effect.served?, h, Scripted.push]
  | broadcast e =>
    obtain ⟨how, answer, l, received, hact⟩ := t.act_broadcast e
    rw [hact]
    cases received with
    | refused => simp [Effect.pushed?, Effect.served?, h]
    | served _ next => simp [Effect.pushed?, Effect.served?, h, next]
    | unserved => simp [Effect.pushed?, Effect.served?, h]

/-- The account has moved once for each answer that used up a sequence. -/
structure Numbered (enforcing : Bool) (t : Traffic) : Prop where
  rule : t.ledger.enforcing = enforcing
  number : t.ledger.account.accountNumber = 1
  sequence : t.ledger.account.sequence.toNat = t.taken.length
  inOrder : enforcing = true → t.taken.map (·.sequence.toNat) = List.range t.taken.length

/-- Only a broadcast concerns the account. -/
theorem act_account {c : ScriptCall} (h : c.envelope? = none) :
    (t.act c).ledger.account = t.ledger.account ∧
      (t.act c).ledger.enforcing = t.ledger.enforcing ∧ (t.act c).taken = t.taken := by
  cases c with
  | broadcast e => cases h
  | deliver place =>
    simp only [act]
    split <;> simp [Effect.taken?, Scripted.push]
  | _ => simp [act, Effect.taken?, Scripted.push, Scripted.pushMismatch, Scripted.pushSuccess,
      Scripted.client]

/-- An answer takes the next number if it uses up a sequence, and otherwise none. -/
theorem Numbered.answered (h : Numbered enforcing t)
    (below : t.ledger.account.sequence < Counters.lastSequence) {e : Envelope} {how : Reception}
    {answer : Except Failure Receipt} (admitted : uses answer = true → enforcing = true →
      e.sequence = t.ledger.account.sequence)
    (rule : l.enforcing = t.ledger.enforcing)
    (account : l.account = t.ledger.accountAfter answer) :
    Numbered enforcing (t.note (.answered e how answer) l drawn) := by
  rw [Scripted.accountAfter_eq] at account
  cases hanswer : uses answer with
  | false =>
    rw [hanswer, if_neg (by decide)] at account
    have htaken : (t.note (.answered e how answer) l drawn).taken = t.taken := by
      simp [Effect.taken?, hanswer]
    exact ⟨rule.trans h.rule, account ▸ h.number, htaken ▸ account ▸ h.sequence, htaken ▸ h.inOrder⟩
  | true =>
    rw [hanswer, if_pos rfl] at account
    have htaken : (t.note (.answered e how answer) l drawn).taken = t.taken ++ [e] := by
      simp [Effect.taken?, hanswer]
    refine ⟨rule.trans h.rule, account ▸ h.number, ?_, fun henforcing => ?_⟩
    · rw [note_ledger, account, htaken, toNat_succ below, h.sequence, List.length_append]
      rfl
    · rw [htaken, List.map_append, h.inOrder henforcing, List.map_singleton,
        admitted hanswer henforcing, h.sequence, List.length_append, List.length_singleton,
        List.range_succ]

theorem Numbered.act (h : Numbered enforcing t)
    (below : t.ledger.account.sequence < Counters.lastSequence) (c : ScriptCall) :
    Numbered enforcing (t.act c) := by
  cases hcall : c.envelope? with
  | none =>
    obtain ⟨haccount, hrule, htaken⟩ := act_account (t := t) hcall
    exact ⟨hrule.trans h.rule, haccount ▸ h.number, haccount ▸ htaken ▸ h.sequence,
      htaken ▸ h.inOrder⟩
  | some e =>
    cases c with
    | broadcast e =>
      obtain ⟨how, answer, l, received, hact⟩ := t.act_broadcast e
      rw [hact]
      cases received with
      | refused => exact h.answered below (fun used => by cases used) rfl rfl
      | unserved => exact h.answered below (fun used => by cases used) rfl rfl
      | served admitted => exact h.answered below (fun _ on => admitted (h.rule.trans on)) rfl rfl
    | _ => cases hcall

/-- The heights are given out one by one, and each success joined the script or still waits. -/
structure Supplied (t : Traffic) : Prop where
  next : t.ledger.nextHeight = UInt64.ofNat (t.successes.length + 1)
  heights : t.successes.map Receipt.height =
    (List.range t.successes.length).map fun i => UInt64.ofNat (i + 1)
  hashes : ∀ r ∈ t.successes, r.txhash = Scripted.hashOfHeight r.height
  each : t.successes.Perm (t.delivered ++ t.drawn)

theorem Supplied.draw (h : Supplied t) (events : List Event) :
    Supplied (t.act (.draw events)) := by
  have hsuccesses : (t.act (.draw events)).successes =
      t.successes ++ [success t.ledger.nextHeight events] := by simp [Traffic.act, Effect.drew?]
  refine ⟨?_, ?_, ?_, ?_⟩
  · rw [hsuccesses, List.length_append]
    simp [Traffic.act, h.next]
  · rw [hsuccesses, List.map_append, h.heights, List.length_append, List.length_singleton,
      List.range_succ, List.map_append]
    simp [success, h.next]
  · rw [hsuccesses]
    intro r hr
    rcases List.mem_append.mp hr with hr | hr
    · exact h.hashes r hr
    · rw [List.mem_singleton.mp hr]
      rfl
  · have hwaiting : (t.act (.draw events)).delivered ++ (t.act (.draw events)).drawn =
        t.delivered ++ t.drawn ++ [success t.ledger.nextHeight events] := by
      simp [Traffic.act, Effect.delivered?]
    rw [hsuccesses, hwaiting]
    exact h.each.append_right _

/-- No height is given out. -/
theorem Supplied.keep (h : Supplied t) {t' : Traffic}
    (next : t'.ledger.nextHeight = t.ledger.nextHeight) (successes : t'.successes = t.successes)
    (each : (t.delivered ++ t.drawn).Perm (t'.delivered ++ t'.drawn)) : Supplied t' := by
  obtain ⟨hnext, hheights, hhashes, heach⟩ := h
  rw [← next, ← successes] at hnext
  rw [← successes] at hheights hhashes heach
  exact ⟨hnext, hheights, hhashes, heach.trans each⟩

theorem Supplied.deliver (h : Supplied t) (place : Nat) : Supplied (t.act (.deliver place)) := by
  simp only [Traffic.act]
  split
  · exact h
  · rename_i r hr
    obtain ⟨hlt, rfl⟩ := List.getElem?_eq_some_iff.mp hr
    have hperm := List.getElem_cons_eraseIdx_perm hlt
    refine h.keep rfl (by simp [Effect.drew?]) ?_
    rw [note_delivered, note_drawn, List.append_assoc]
    exact hperm.symm.append_left _

theorem Supplied.act (h : Supplied t) (c : ScriptCall) : Supplied (t.act c) := by
  cases c with
  | draw events => exact h.draw events
  | deliver place => exact h.deliver place
  | pushSuccess events =>
    rw [act_pushSuccess]
    exact (h.draw events).deliver _
  | broadcast e =>
    obtain ⟨how, answer, l, received, hact⟩ := t.act_broadcast e
    have hnext : l.nextHeight = t.ledger.nextHeight := by cases received <;> rfl
    rw [hact]
    exact h.keep hnext (by simp [Effect.drew?]) (by simp [Effect.delivered?])
  | push | pushMismatch | look =>
    exact h.keep rfl (by simp [Traffic.act, Effect.drew?])
      (by simp [Traffic.act, Effect.delivered?])

structure Sound (enforcing : Bool) (t : Traffic) : Prop where
  queued : Queued t
  numbered : Numbered enforcing t
  supplied : Supplied t

theorem sound_start (chainId : String) (enforcing : Bool) :
    Sound enforcing (start chainId enforcing) where
  queued := rfl
  numbered := ⟨rfl, rfl, rfl, fun _ => rfl⟩
  supplied := ⟨rfl, rfl, by simp [successes, start], .refl _⟩

/-- Before each call of a run the ledger is below its last sequence. -/
def Below (t : Traffic) (calls : List ScriptCall) : Prop :=
  ∀ before c after, calls = before ++ c :: after →
    (t.run before).ledger.account.sequence < Counters.lastSequence

theorem Below.take {before after : List ScriptCall} (below : Below t (before ++ after)) :
    Below t before :=
  fun calls c rest h => below calls c (rest ++ after) (by simp [h])

theorem Below.of_take {calls : List ScriptCall} (h : ∀ k < calls.length,
    (t.run (calls.take k)).ledger.account.sequence < Counters.lastSequence) : Below t calls := by
  rintro before c after rfl
  simpa using h before.length (by simp)

theorem Sound.run (h : Sound enforcing t) {calls : List ScriptCall} (below : Below t calls) :
    Sound enforcing (t.run calls) := by
  induction calls generalizing t with
  | nil => exact h
  | cons c calls ih =>
    have hfirst : t.ledger.account.sequence < Counters.lastSequence := below [] c calls rfl
    have hnext : Sound enforcing (t.act c) :=
      ⟨h.queued.act c, h.numbered.act hfirst c, h.supplied.act c⟩
    exact ih hnext fun before c' after hcalls =>
      below (c :: before) c' after (congrArg (c :: ·) hcalls)

/-- The envelope has another sequence than that which is due, the number of those used up. -/
def Stale (enforcing : Bool) (t : Traffic) (e : Envelope) : Prop :=
  enforcing = true ∧ e.sequence.toNat ≠ t.taken.length

/-- What a broadcast does, told by what was pushed and served before it. A stale envelope is
refused, takes nothing from the script and leaves the account. Any other is served the entry that
was pushed after those served before, or the error if there is no such entry. -/
structure Answers (enforcing : Bool) (t : Traffic) (e : Envelope) : Prop where
  refused : t.Stale enforcing e → t.act (.broadcast e) =
    t.note (.answered e .refused (.ok mismatch))
      { t.ledger with broadcasts := t.ledger.broadcasts ++ [e] } t.drawn
  served : ¬ t.Stale enforcing e → ∀ answer, t.pushed[t.served.length]? = some answer →
    t.act (.broadcast e) = t.note (.answered e .served answer)
      { t.ledger with
        broadcasts := t.ledger.broadcasts ++ [e]
        script := t.ledger.script.tail
        account := t.ledger.accountAfter answer } t.drawn
  unserved : ¬ t.Stale enforcing e → t.pushed.length = t.served.length →
    t.act (.broadcast e) = t.note (.answered e .unserved unscripted)
      { t.ledger with broadcasts := t.ledger.broadcasts ++ [e] } t.drawn

theorem Sound.answers (h : Sound enforcing t) (e : Envelope) : Answers enforcing t e := by
  have hstale : t.Stale enforcing e ↔
      t.ledger.enforcing = true ∧ e.sequence ≠ t.ledger.account.sequence := by
    rw [Stale, ← h.numbered.rule, ← h.numbered.sequence, ne_eq, UInt64.toNat_inj]
  have hfresh : (t.ledger.enforcing = true → e.sequence = t.ledger.account.sequence) →
      ¬ t.Stale enforcing e :=
    fun admitted stale => (hstale.mp stale).2 (admitted (hstale.mp stale).1)
  have hpushed : t.pushed = t.served ++ t.ledger.script := h.queued
  obtain ⟨how, answer, l, received, hact⟩ := t.act_broadcast e
  cases received with
  | refused on stale =>
    have hrefused := hstale.mpr ⟨on, stale⟩
    exact ⟨fun _ => hact, absurd hrefused, absurd hrefused⟩
  | @served answer rest admitted next =>
    refine ⟨fun stale => absurd stale (hfresh admitted), fun _ x hx => ?_, fun _ hnone => ?_⟩
    · rw [hpushed, next, List.getElem?_append_right (Nat.le_refl _), Nat.sub_self] at hx
      cases hx
      rw [hact, next]
      rfl
    · rw [hpushed, next, List.length_append, List.length_cons] at hnone
      omega
  | unserved admitted empty =>
    refine ⟨fun stale => absurd stale (hfresh admitted), fun _ x hx => ?_, fun _ _ => hact⟩
    rw [hpushed, empty, List.append_nil, List.getElem?_length] at hx
    cases hx

theorem act_broadcasts (t : Traffic) (c : ScriptCall) :
    (t.act c).ledger.broadcasts = t.ledger.broadcasts ++ c.envelope?.toList := by
  cases c with
  | deliver place =>
    simp only [act]
    split <;> simp [ScriptCall.envelope?, Scripted.push]
  | broadcast e => simp [act, ScriptCall.envelope?, Scripted.receive_broadcasts]
  | _ => simp [act, ScriptCall.envelope?, Scripted.push, Scripted.pushMismatch,
      Scripted.pushSuccess, Scripted.client]

theorem run_broadcasts (t : Traffic) (calls : List ScriptCall) : (t.run calls).ledger.broadcasts =
    t.ledger.broadcasts ++ calls.filterMap ScriptCall.envelope? := by
  induction calls generalizing t with
  | nil => simp [run]
  | cons c calls ih =>
    have hrest := ih (t.act c)
    rw [act_broadcasts] at hrest
    refine hrest.trans ?_
    cases h : c.envelope? <;> simp [h]

/-- Fewer successes than there are heights have different heights and hashes. -/
theorem Supplied.distinct (h : Supplied t) (few : t.successes.length < UInt64.size - 1) :
    (t.successes.map Receipt.height).Nodup ∧ (t.successes.map Receipt.txhash).Nodup := by
  have hheights : (t.successes.map Receipt.height).Nodup := by
    rw [h.heights]
    refine List.Nodup.map_on (fun i hi j hj same => ?_) List.nodup_range
    have hi := List.mem_range.mp hi
    have hj := List.mem_range.mp hj
    have hnat := congrArg UInt64.toNat same
    rw [UInt64.toNat_ofNat_of_lt' (by omega), UInt64.toNat_ofNat_of_lt' (by omega)] at hnat
    omega
  have hhashes : t.successes.map Receipt.txhash =
      (t.successes.map Receipt.height).map Scripted.hashOfHeight := by
    rw [List.map_map]
    exact List.map_congr_left h.hashes
  exact ⟨hheights, hhashes ▸ hheights.map Scripted.hashOfHeight_injective⟩

end Traffic

open Traffic (start)

/-- Nothing is lost and nothing repeated in the calls to a new ledger. -/
structure Faithful (chainId : String) (enforcing : Bool) (calls : List ScriptCall)
    (t : Traffic) : Prop where
  broadcasts : t.ledger.broadcasts = calls.filterMap ScriptCall.envelope?
  script : t.pushed = t.served ++ t.ledger.script
  answers : ∀ before e after, calls = before ++ .broadcast e :: after →
    ((start chainId enforcing).run before).Answers enforcing e
  looks : ∀ before address after, calls = before ++ .look address :: after →
    let u := (start chainId enforcing).run before
    u.act (.look address) =
      u.note (.told (.ok ⟨1, UInt64.ofNat u.taken.length⟩)) u.ledger u.drawn
  account : t.ledger.account.accountNumber = 1 ∧
    t.ledger.account.sequence.toNat = t.taken.length
  inOrder : enforcing = true → t.taken.map (·.sequence.toNat) = List.range t.taken.length
  successes : t.successes.Perm (t.delivered ++ t.drawn)
  distinct : t.successes.length < UInt64.size - 1 →
    (t.successes.map Receipt.height).Nodup ∧ (t.successes.map Receipt.txhash).Nodup

/-- As long as the ledger is below its last sequence, all envelopes are kept in the order of the
calls, what was pushed is served first in, first out, and the account moves once for each answer
that uses up a sequence, in order under enforcement. Successes differ in heights and hashes. -/
theorem scripted_faithful (chainId : String) (enforcing : Bool) (calls : List ScriptCall)
    (below : (start chainId enforcing).Below calls) :
    Faithful chainId enforcing calls ((start chainId enforcing).run calls) := by
  have hstart := Traffic.sound_start chainId enforcing
  obtain ⟨hqueued, hnumbered, hsupplied⟩ := hstart.run below
  refine ⟨Traffic.run_broadcasts _ calls, hqueued, ?_, ?_,
    ⟨hnumbered.number, hnumbered.sequence⟩, hnumbered.inOrder, hsupplied.each,
    hsupplied.distinct⟩
  · rintro before e after rfl
    exact (hstart.run below.take).answers e
  · rintro before address after rfl
    obtain ⟨_, hbefore, _⟩ := hstart.run below.take
    have haccount : ((start chainId enforcing).run before).ledger.account =
        ⟨1, UInt64.ofNat ((start chainId enforcing).run before).taken.length⟩ := by
      rw [← hbefore.sequence, UInt64.ofNat_toNat, ← hbefore.number]
    exact congrArg (fun info => Traffic.note _ (.told (.ok info)) _ _) haccount

def numberedEnvelope (sequence : UInt64) : Envelope where
  sender := "terra1"
  chainId := "c"
  accountNumber := 1
  sequence
  operation := .storeCode [0]
  fee := ⟨1, [⟨1, "uusd"⟩]⟩
  memo := ""
  publicKey := []
  signature := []

/-- Of two successes the first to draw its height joins the script last. One broadcast comes too
early, one is stale and three are served. -/
def mixedCalls : List ScriptCall :=
  [.broadcast (numberedEnvelope 0), .draw [], .pushSuccess [], .broadcast (numberedEnvelope 1),
    .deliver 0, .pushMismatch, .broadcast (numberedEnvelope 0), .look "terra1",
    .broadcast (numberedEnvelope 1), .broadcast (numberedEnvelope 2)]

theorem scripted_faithful_mixed :
    let t := (start "c" true).run mixedCalls
    (start "c" true).Below mixedCalls ∧ Faithful "c" true mixedCalls t ∧
    t.served = [.ok (success 2 []), .ok (success 1 []), .ok mismatch] ∧
    t.taken = [numberedEnvelope 0, numberedEnvelope 1] ∧ t.ledger.account = ⟨1, 2⟩ ∧
    t.successes = [success 1 [], success 2 []] := by
  have hbelow : (start "c" true).Below mixedCalls := Traffic.Below.of_take (by decide)
  exact ⟨hbelow, scripted_faithful "c" true mixedCalls hbelow, rfl, rfl, rfl, rfl⟩

end Proofs

end TxDispatch
