import TxDispatch.Ledger.Staged
import TxDispatch.Proofs.Bookkeeping
import TxDispatch.Proofs.Outcomes

namespace TxDispatch.Proofs

open Scene

variable {σ : Type}

theorem lt_after {used : UInt64} (h : used < Counters.lastSequence) : used < Counters.after used := by
  rw [UInt64.lt_iff_toNat_lt] at h
  rw [UInt64.lt_iff_toNat_lt, Counters.after_toNat]
  have hlast : Counters.lastSequence.toNat = UInt64.size - 1 := rfl
  omega

def Calm (codes : List ConflictCode) (heard : List Contact) : Prop :=
  ∀ x ∈ heard, conflicts codes x = false

instance (codes : List ConflictCode) (heard : List Contact) : Decidable (Calm codes heard) :=
  inferInstanceAs (Decidable (∀ x ∈ heard, conflicts codes x = false))

theorem Calm.tail {codes : List ConflictCode} {x : Contact} {heard : List Contact}
    (h : Calm codes (x :: heard)) : Calm codes heard :=
  fun y hy => h y (.tail x hy)

/-- A wallet whose sequence the next lookup cannot lower. -/
structure Settled (codes : List ConflictCode) (w : Copy) : Prop where
  fresh : w.stale = false
  calm : ∀ x, w.last = some x → conflicts codes x = false

theorem settled_looked (codes : List ConflictCode) (w : Copy) (a : String)
    (answer : Except Failure AccountInfo) : Settled codes (w.hear codes (.looked a answer)) := by
  refine ⟨rfl, ?_⟩
  rintro x ⟨⟩
  rfl

theorem settled_sent {codes : List ConflictCode} {e : Envelope} {answer : Except Failure Receipt}
    {heard : List Contact} (w : Copy) (calm : Calm codes (.sent e answer :: heard)) :
    Settled codes (w.hear codes (.sent e answer)) := by
  refine ⟨rfl, ?_⟩
  rintro x ⟨⟩
  exact calm _ (.head heard)

theorem learn_looked {codes : List ConflictCode} {w : Copy} (hw : Settled codes w) (a : String)
    (answer : Except Failure AccountInfo) :
    w.counters.sequence ≤ (w.learn codes (.looked a answer)).sequence := by
  cases answer with
  | error _ => exact UInt64.le_refl _
  | ok info =>
    simp only [Copy.learn, hw.fresh, adopted, Bool.false_eq_true, if_false]
    exact Word64.le_max_fst w.counters.sequence info.sequence

theorem learn_sent (codes : List ConflictCode) (w : Copy) (e : Envelope)
    (answer : Except Failure Receipt) :
    w.counters.sequence ≤ (w.learn codes (.sent e answer)).sequence := by
  cases answer with
  | error _ => exact UInt64.le_refl _
  | ok r =>
    simp only [Copy.learn]
    split
    · exact Word64.le_max_fst w.counters.sequence (Counters.after e.sequence)
    · exact UInt64.le_refl _

/-- A credited answer takes the wallet past the sequence that was broadcast. -/
theorem lt_learn_credited {codes : List ConflictCode} (w : Copy) {e : Envelope} {r : Receipt}
    (credited : credits codes r = true) (below : e.sequence < Counters.lastSequence) :
    e.sequence < (w.learn codes (.sent e (.ok r))).sequence := by
  simp only [Copy.learn, credited, if_true]
  exact UInt64.lt_of_lt_of_le (lt_after below)
    (Word64.le_max_snd w.counters.sequence (Counters.after e.sequence))

/-- A settled wallet that hears of no conflict broadcasts no sequence below its own. -/
theorem Kept.floor {codes : List ConflictCode} {w w' : Copy} {heard : List Contact} {b : UInt64}
    (h : Kept codes w heard w') (hw : Settled codes w) (calm : Calm codes heard)
    (hb : b ≤ w.counters.sequence) : ∀ e ∈ envelopes heard, b ≤ e.sequence := by
  induction h with
  | done => simp
  | @looked w a answer heard w' rest ih =>
    exact ih (settled_looked codes w a answer) calm.tail
      (UInt64.le_trans hb (learn_looked hw a answer))
  | @sent w e answer heard w' hs rest ih =>
    intro e' he
    rcases List.mem_cons.mp he with rfl | he
    · rw [hs]
      exact hb
    · exact ih (settled_sent w calm) calm.tail (UInt64.le_trans hb (learn_sent codes w e answer))
        e' he
  | rested hlast conflict rest ih =>
    rw [hw.calm _ hlast] at conflict
    cases conflict

/-- Without conflicts sequences never decrease, wherever the stretch of the journal begins. -/
theorem Kept.rising {codes : List ConflictCode} {w w' : Copy} {heard : List Contact}
    (h : Kept codes w heard w') (calm : Calm codes heard) :
    ((envelopes heard).map Envelope.sequence).Pairwise (· ≤ ·) := by
  induction h with
  | done => exact .nil
  | looked rest ih => exact ih calm.tail
  | @sent w e answer heard w' hs rest ih =>
    refine .cons ?_ (ih calm.tail)
    intro q hq
    obtain ⟨e', he, rfl⟩ := List.mem_map.mp hq
    exact rest.floor (settled_sent w calm) calm.tail (hs ▸ learn_sent codes w e answer) e' he
  | rested _ _ rest ih => exact ih calm.tail

/-- Without conflicts everything behind a credited broadcast has a greater sequence. -/
theorem Kept.consumed {codes : List ConflictCode} {w w' : Copy} {before after : List Contact}
    {e : Envelope} {r : Receipt} (h : Kept codes w (before ++ .sent e (.ok r) :: after) w')
    (calm : Calm codes (before ++ .sent e (.ok r) :: after)) (credited : credits codes r = true)
    (below : e.sequence < Counters.lastSequence) :
    ∀ e' ∈ envelopes after, e.sequence < e'.sequence := by
  obtain ⟨w₁, _, hkept⟩ := h.split
  have hcalm : Calm codes (.sent e (.ok r) :: after) :=
    fun x hx => calm x (List.mem_append_right before hx)
  cases hkept with
  | sent hs rest =>
    intro e' he
    exact UInt64.lt_of_lt_of_le (lt_learn_credited w₁ credited below)
      (rest.floor (settled_sent w₁ hcalm) hcalm.tail (UInt64.le_refl _) e' he)

/-- Sequences in order: they never decrease, and they grow behind every broadcast that consumed one. -/
structure Fresh (codes : List ConflictCode) (heard : List Contact) : Prop where
  rising : ((envelopes heard).map Envelope.sequence).Pairwise (· ≤ ·)
  consumed : ∀ before e r after, heard = before ++ .sent e (.ok r) :: after →
    credits codes r = true → e.sequence < Counters.lastSequence →
    ∀ e' ∈ envelopes after, e.sequence < e'.sequence

/-- However stale the ledger's views are, no stretch of a session's journal uses a consumed sequence
again unless it holds a conflict. -/
theorem calm_fresh (c : Client σ) (orders : List Order) (s : Scene σ)
    (before stretch after : List Contact)
    (journal : (submitAll c orders s).world.journal =
      s.world.journal ++ (before ++ stretch ++ after))
    (calm : Calm s.session.conflictCodes stretch) : Fresh s.session.conflictCodes stretch := by
  obtain ⟨heard, w', hleads, hkept, _⟩ :=
    submitAll_kept c orders s ⟨s.session.wallet.counters, none⟩ rfl rfl
  have hj := hleads.journal
  rw [journal] at hj
  obtain rfl := List.append_cancel_left hj
  obtain ⟨w₁, hinit, _⟩ := hkept.split
  obtain ⟨w₂, _, hstretch⟩ := hinit.split
  refine ⟨hstretch.rising calm, ?_⟩
  intro earlier e r later hsplit credited below
  subst hsplit
  exact hstretch.consumed calm credited below

def laggingScene : Scene (Staged Scripted) :=
  ⟨leastSession, { ledger := {
    inner := {
      chainId := "localterra"
      script := [.ok (Scripted.success 1 []), .ok (Scripted.success 2 [])] }
    views := [.ok ⟨1, 7⟩, .ok ⟨1, 3⟩] } }⟩

/-- The first submission misses its event, and its sequence is consumed all the same. -/
theorem calm_fresh_lagging :
    let orders := [{ leastOrder with target := some ⟨"store_code", "code_id"⟩ }, leastOrder]
    let heard := (submitAll (Staged.client Scripted.client) orders laggingScene).world.journal
    heard = [] ++ ([] ++ heard ++ []) ∧ Calm [] heard ∧
      (envelopes heard).map Envelope.sequence = [7, 8] ∧ Fresh [] heard :=
  ⟨by simp, by decide, rfl, calm_fresh (Staged.client Scripted.client) _ laggingScene [] _ []
    (List.append_nil _).symm (by decide)⟩

end TxDispatch.Proofs
