import Mathlib.Order.Bounds.Basic
import TxDispatch.Wallet.Family
import TxDispatch.Wallet.Handles

namespace TxDispatch

namespace Deed

def apply (c : Counters) : Deed → Counters
  | observe info => c.observe info
  | reset info => c.reset info
  | advance used => c.advancePast used
  | _ => c

def IsReset : Deed → Prop
  | reset _ => True
  | _ => False

def info? : Deed → Option AccountInfo
  | observe info => some info
  | reset info => some info
  | _ => none

/-- The number that the sequence is raised to. -/
def claim? : Deed → Option Nat
  | observe info => some info.sequence.toNat
  | advance used => some (min (used.toNat + 1) (UInt64.size - 1))
  | _ => none

/-- The last reset set the sequence to `floor`, and `later` was done since. Without a reset the
sequence was `first`. -/
inductive SinceReset (first : UInt64) : List Deed → UInt64 → List Deed → Prop where
  | start {deeds : List Deed} (none : ∀ d ∈ deeds, ¬ d.IsReset) : SinceReset first deeds first deeds
  | reset {later : List Deed} (earlier : List Deed) (info : AccountInfo)
    (none : ∀ d ∈ later, ¬ d.IsReset) :
    SinceReset first (earlier ++ .reset info :: later) info.sequence later

theorem exists_sinceReset (first : UInt64) (deeds : List Deed) :
    ∃ floor later, SinceReset first deeds floor later := by
  induction deeds with
  | nil => exact ⟨first, [], .start (by simp)⟩
  | cons d deeds ih =>
    obtain ⟨floor, later, hsince⟩ := ih
    cases hsince with
    | reset earlier info none => exact ⟨_, _, .reset (d :: earlier) info none⟩
    | start none =>
      cases d with
      | reset info => exact ⟨_, _, .reset [] info none⟩
      | _ => exact ⟨_, _, .start (by simpa [IsReset] using none)⟩

theorem apply_sequence {d : Deed} (c : Counters) (h : ¬ d.IsReset) :
    (d.apply c).sequence.toNat = max c.sequence.toNat (d.claim?.getD 0) := by
  cases d with
  | reset info => exact absurd trivial h
  | observe info => exact Word64.toNat_max _ _
  | advance used =>
    simp [apply, Counters.advancePast, claim?, Word64.toNat_max, Counters.after_toNat]
  | sign _ | clone _ | rename _ => simp [apply, claim?]

theorem isGreatest_cons_max {a b g : Nat} {xs : List Nat}
    (h : IsGreatest {n | n ∈ max a b :: xs} g) : IsGreatest {n | n ∈ a :: b :: xs} g := by
  obtain ⟨hmem, hle⟩ := h
  have hmax : max a b ≤ g := hle List.mem_cons_self
  constructor
  · rcases List.mem_cons.mp hmem with heq | htail
    · rcases Nat.le_total a b with hab | hab <;> simp [heq, hab]
    · exact List.mem_cons_of_mem _ (List.mem_cons_of_mem _ htail)
  · intro n hn
    rcases List.mem_cons.mp hn with rfl | hn
    · omega
    · rcases List.mem_cons.mp hn with rfl | htail
      · omega
      · exact hle (List.mem_cons_of_mem _ htail)

/-- Without a reset the sequence ends as the greatest of all that it was and that was told. -/
theorem isGreatest_foldl (c : Counters) {deeds : List Deed} (none : ∀ d ∈ deeds, ¬ d.IsReset) :
    IsGreatest {n | n ∈ c.sequence.toNat :: deeds.filterMap claim?}
      (deeds.foldl apply c).sequence.toNat := by
  induction deeds generalizing c with
  | nil => simp [IsGreatest]
  | cons d deeds ih =>
    have hrest := ih (d.apply c) fun x hx => none x (List.mem_cons_of_mem _ hx)
    rw [apply_sequence c (none d List.mem_cons_self)] at hrest
    rw [List.foldl_cons, List.filterMap_cons]
    cases hclaim : d.claim? with
    | none => simpa [hclaim] using hrest
    | some n => exact isGreatest_cons_max (by simpa [hclaim] using hrest)

theorem SinceReset.isGreatest {c : Counters} {deeds later : List Deed} {floor : UInt64}
    (h : SinceReset c.sequence deeds floor later) :
    IsGreatest {n | n ∈ floor.toNat :: later.filterMap claim?}
      (deeds.foldl apply c).sequence.toNat := by
  cases h with
  | start none => exact isGreatest_foldl c none
  | reset earlier info none =>
    rw [List.foldl_append, List.foldl_cons]
    exact isGreatest_foldl _ none

theorem foldl_accountNumber (c : Counters) (deeds : List Deed) :
    (deeds.foldl apply c).accountNumber =
      ((deeds.filterMap info?).getLast?.map AccountInfo.accountNumber).getD c.accountNumber := by
  induction deeds generalizing c with
  | nil => rfl
  | cons d deeds ih =>
    rw [List.foldl_cons, ih, List.filterMap_cons]
    cases d with
    | observe info | reset info =>
      simp only [info?, List.getLast?_cons]
      cases (deeds.filterMap info?).getLast? <;> rfl
    | advance _ | sign _ | clone _ | rename _ => rfl

/-- Two stretches without a reset that tell the same numbers leave the same sequence, whatever is
done after them. -/
theorem foldl_sequence_congr {deeds deeds' : List Deed} (none : ∀ d ∈ deeds, ¬ d.IsReset)
    (none' : ∀ d ∈ deeds', ¬ d.IsReset)
    (same : ∀ n, n ∈ deeds.filterMap claim? ↔ n ∈ deeds'.filterMap claim?) (c : Counters)
    (after : List Deed) :
    ((deeds ++ after).foldl apply c).sequence = ((deeds' ++ after).foldl apply c).sequence := by
  have hlevel : (deeds.foldl apply c).sequence = (deeds'.foldl apply c).sequence := by
    have hset : {n | n ∈ c.sequence.toNat :: deeds.filterMap claim?} =
        {n | n ∈ c.sequence.toNat :: deeds'.filterMap claim?} := by
      ext n
      simp only [Set.mem_ofPred_eq, List.mem_cons, same]
    have hgreatest := isGreatest_foldl c none
    rw [hset] at hgreatest
    exact UInt64.toNat_inj.mp (hgreatest.unique (isGreatest_foldl c none'))
  rw [List.foldl_append, List.foldl_append]
  generalize deeds.foldl apply c = m at hlevel ⊢
  generalize deeds'.foldl apply c = n at hlevel ⊢
  induction after generalizing m n with
  | nil => exact hlevel
  | cons d after ih =>
    apply ih
    cases d <;> simp [apply, Counters.observe, Counters.reset, Counters.advancePast, hlevel]

end Deed

namespace Family

def Step.grown (n : Nat) (s : Step) : Nat :=
  match s.deed with
  | .clone _ => n + 1
  | _ => n

/-- Each step names a handle that is there, `n` being there at first. -/
def Named : Nat → List Step → Prop
  | _, [] => True
  | n, s :: rest => s.handle < n ∧ Named (s.grown n) rest

def Step.shared (s : Step) : Handles.Step :=
  match s.deed with
  | .observe info => .observe info
  | .reset info => .reset info
  | .advance used => .advance used
  | .sign digest => .sign digest
  | .clone account => .clone s.handle account
  | .rename account => .rename s.handle account

/-- Handles in memory that stand for one set of counters. -/
structure Shared (f : Family) (g : Handles) : Prop where
  memory : f.memory = [g.counters.accountNumber, g.counters.sequence]
  places : ∀ h ∈ f.handles, h.numberAt = 0 ∧ h.sequenceAt = 1
  accounts : f.handles.map Handle.account = g.accounts

theorem shared_ofWallet (w : Wallet) : Shared (ofWallet w) (.ofWallet w) :=
  ⟨rfl, by simp [ofWallet], rfl⟩

theorem Shared.counters {f : Family} {g : Handles} (h : Shared f g) {x : Handle}
    (hx : x ∈ f.handles) : f.counters x = g.counters := by
  obtain ⟨hnumber, hsequence⟩ := h.places x hx
  simp [Family.counters, load, hnumber, hsequence, h.memory]

theorem Shared.view {f : Family} {g : Handles} (h : Shared f g) : f.view = g.view := by
  have hshown : f.view = f.handles.map fun x =>
      (x.account, g.counters.accountNumber, g.counters.sequence) := by
    apply List.map_congr_left
    intro x hx
    have hcounters := h.counters hx
    simp only [Family.counters] at hcounters
    rw [← hcounters]
  rw [hshown, Handles.view, ← h.accounts, List.map_map]
  rfl

theorem step_of_getElem {f : Family} {s : Step} {x : Handle} (h : f.handles[s.handle]? = some x) :
    f.step s = f.act s.handle x s.deed := by
  simp only [step, h]

theorem Shared.after_step {f : Family} {g : Handles} (h : Shared f g) {s : Step}
    (named : s.handle < f.handles.length) : Shared (f.step s) (g.step s.shared) := by
  obtain ⟨i, d⟩ := s
  have hget : f.handles[i]? = some f.handles[i] := List.getElem?_eq_getElem named
  have hx : f.handles[i] ∈ f.handles := List.getElem_mem named
  have hname : g.accounts[i]? = some f.handles[i].account := by
    simp [← h.accounts, hget]
  rw [step_of_getElem hget]
  generalize f.handles[i] = x at hget hx hname
  obtain ⟨hnumber, hsequence⟩ := h.places x hx
  cases d with
  | observe info =>
    exact ⟨by simp [act, store, raise, load, hnumber, hsequence, h.memory, Handles.step,
      Step.shared, Counters.observe], h.places, h.accounts⟩
  | reset info =>
    exact ⟨by simp [act, store, hnumber, hsequence, h.memory, Handles.step, Step.shared,
      Counters.reset], h.places, h.accounts⟩
  | advance used =>
    exact ⟨by simp [act, store, raise, load, hsequence, h.memory, Handles.step,
      Step.shared, Counters.advancePast], h.places, h.accounts⟩
  | sign digest => exact h
  | clone account =>
    refine ⟨h.memory, ?_, ?_⟩
    · intro y hy
      rcases List.mem_append.mp hy with hold | hnew
      · exact h.places y hold
      · obtain rfl := List.mem_singleton.mp hnew
        exact h.places x hx
    · simp [act, Handles.step, Step.shared, h.accounts, List.getD_eq_getElem?_getD, hname]
  | rename account =>
    refine ⟨h.memory, ?_, ?_⟩
    · intro y hy
      rcases List.mem_or_eq_of_mem_set hy with hold | rfl
      · exact h.places y hold
      · exact h.places x hx
    · simp [act, Handles.step, Step.shared, h.accounts, List.map_set]

theorem length_act (f : Family) (i : Nat) (x : Handle) (d : Deed) :
    (f.act i x d).handles.length = Step.grown f.handles.length ⟨i, d⟩ := by
  cases d <;> simp [act, store, raise, Step.grown]

theorem Shared.after_steps {f : Family} {g : Handles} (h : Shared f g) {steps : List Step}
    (named : Named f.handles.length steps) :
    Shared (steps.foldl step f) ((steps.map Step.shared).foldl Handles.step g) := by
  induction steps generalizing f g with
  | nil => exact h
  | cons s steps ih =>
    obtain ⟨hfirst, hrest⟩ := named
    apply ih (h.after_step hfirst)
    rw [step_of_getElem (List.getElem?_eq_getElem hfirst), length_act]
    exact hrest

end Family

theorem Handles.foldl_counters (g : Handles) (steps : List Family.Step) :
    ((steps.map Family.Step.shared).foldl step g).counters =
      (steps.map Family.Step.deed).foldl Deed.apply g.counters := by
  induction steps generalizing g with
  | nil => rfl
  | cons s steps ih =>
    rw [List.map_cons, List.foldl_cons, ih, List.map_cons, List.foldl_cons]
    congr 1
    obtain ⟨i, d⟩ := s
    cases d <;> rfl

namespace Family

theorem counters_run {w : Wallet} {steps : List Step} (named : Named 1 steps) {x : Handle}
    (hx : x ∈ (run w steps).handles) :
    (run w steps).counters x = (steps.map Step.deed).foldl Deed.apply w.counters := by
  have hshared := (shared_ofWallet w).after_steps named
  exact (hshared.counters hx).trans (Handles.foldl_counters _ steps)

theorem named_append {n : Nat} {xs ys : List Step} (h : Named n (xs ++ ys)) : Named n xs := by
  induction xs generalizing n with
  | nil => trivial
  | cons s xs ih => exact ⟨h.1, ih h.2⟩

theorem account_step {f : Family} {s : Step} {i : Nat} {h : Handle} (there : f.handles[i]? = some h)
    (other : ∀ account, s ≠ ⟨i, .rename account⟩) :
    ∃ h', (f.step s).handles[i]? = some h' ∧ h'.account = h.account := by
  obtain ⟨j, d⟩ := s
  cases hget : f.handles[j]? with
  | none => exact ⟨h, by simp [step, hget, there], rfl⟩
  | some x =>
    rw [step_of_getElem hget]
    cases d with
    | rename account =>
      have hne : j ≠ i := by
        rintro rfl
        exact other account rfl
      exact ⟨h, by simp [act, List.getElem?_set_ne hne, there], rfl⟩
    | clone account =>
      obtain ⟨hlt, _⟩ := List.getElem?_eq_some_iff.mp there
      exact ⟨h, by simp [act, List.getElem?_append_left hlt, there], rfl⟩
    | observe _ | reset _ | advance _ | sign _ => exact ⟨h, there, rfl⟩

theorem account_foldl {f : Family} {steps : List Step} {i : Nat} {h : Handle}
    (there : f.handles[i]? = some h) (other : ∀ account, ⟨i, .rename account⟩ ∉ steps) :
    ∃ h', (steps.foldl step f).handles[i]? = some h' ∧ h'.account = h.account := by
  induction steps generalizing f h with
  | nil => exact ⟨h, there, rfl⟩
  | cons s steps ih =>
    obtain ⟨m, hm, hname⟩ := account_step (s := s) there fun account heq =>
      other account (by simp [heq])
    obtain ⟨h', hh', hname'⟩ := ih hm fun account hmem =>
      other account (List.mem_cons_of_mem _ hmem)
    exact ⟨h', hh', hname'.trans hname⟩

end Family

namespace Proofs

open Family

/-- What the handles of a wallet show after some steps: the same numbers, as if there were but one
set of them. -/
structure Agreed (w : Wallet) (steps : List Step) : Prop where
  alike : ∀ x ∈ (run w steps).handles, ∀ y ∈ (run w steps).handles,
    (run w steps).counters x = (run w steps).counters y
  view : (run w steps).view = ((steps.map Step.shared).foldl Handles.step (.ofWallet w)).view
  accountNumber : ∀ x ∈ (run w steps).handles, ((run w steps).counters x).accountNumber =
    (((steps.map Step.deed).filterMap Deed.info?).getLast?.map AccountInfo.accountNumber).getD
      w.accountNumber
  sequence : ∀ x ∈ (run w steps).handles, ∃ floor later,
    Deed.SinceReset w.sequence (steps.map Step.deed) floor later ∧
    IsGreatest {n | n ∈ floor.toNat :: later.filterMap Deed.claim?}
      ((run w steps).counters x).sequence.toNat

theorem agreed_run {w : Wallet} {steps : List Step} (named : Named 1 steps) : Agreed w steps := by
  constructor
  · intro x hx y hy
    rw [counters_run named hx, counters_run named hy]
  · exact ((shared_ofWallet w).after_steps named).view
  · intro x hx
    rw [counters_run named hx]
    exact Deed.foldl_accountNumber _ _
  · intro x hx
    obtain ⟨floor, later, hsince⟩ := Deed.exists_sinceReset w.sequence (steps.map Step.deed)
    refine ⟨floor, later, hsince, ?_⟩
    rw [counters_run named hx]
    exact hsince.isGreatest

def Steady (steps : List Step) : Prop := ∀ s ∈ steps, ¬ s.deed.IsReset

theorem Steady.deeds {steps : List Step} (h : Steady steps) :
    ∀ d ∈ steps.map Step.deed, ¬ d.IsReset := by
  intro d hd
  obtain ⟨s, hs, rfl⟩ := List.mem_map.mp hd
  exact h s hs

def SameSequence (w : Wallet) (steps steps' : List Step) : Prop :=
  ∀ x ∈ (run w steps).handles, ∀ y ∈ (run w steps').handles,
    ((run w steps).counters x).sequence = ((run w steps').counters y).sequence

/-- Of a stretch without resets only the numbers matter that are told in it. -/
theorem sameSequence_of_claims {w : Wallet} {before mid mid' after : List Step}
    (named : Named 1 (before ++ mid ++ after)) (named' : Named 1 (before ++ mid' ++ after))
    (steady : Steady mid) (steady' : Steady mid')
    (same : ∀ n, n ∈ (mid.map Step.deed).filterMap Deed.claim? ↔
      n ∈ (mid'.map Step.deed).filterMap Deed.claim?) :
    SameSequence w (before ++ mid ++ after) (before ++ mid' ++ after) := by
  intro x hx y hy
  rw [counters_run named hx, counters_run named' hy]
  simp only [List.map_append, List.append_assoc, List.foldl_append]
  simpa only [List.foldl_append] using
    Deed.foldl_sequence_congr steady.deeds steady'.deeds same _ (after.map Step.deed)

theorem isReset_of_lt {w : Wallet} {steps : List Step} {s : Step} (named : Named 1 (steps ++ [s]))
    {x y : Handle} (hx : x ∈ (run w steps).handles) (hy : y ∈ (run w (steps ++ [s])).handles)
    (lower : ((run w (steps ++ [s])).counters y).sequence < ((run w steps).counters x).sequence) :
    s.deed.IsReset := by
  by_contra hreset
  rw [counters_run named hy, counters_run (named_append named) hx, List.map_append,
    List.foldl_append, UInt64.lt_iff_toNat_lt] at lower
  simp only [List.map_cons, List.map_nil, List.foldl_cons, List.foldl_nil,
    Deed.apply_sequence _ hreset] at lower
  omega

/-- The handles of a wallet always show the same numbers, and each keeps its own name. The account
number is the last that the ledger told; the sequence is the greatest number that was told since the
last reset, so that neither order nor repetition matters until then, and only a reset lowers it. A new
wallet starts from zero. -/
theorem handles_agree (w : Wallet) :
    (∀ text chainId, Wallet.ofKeyText text chainId = .ok w →
      w.accountNumber = 0 ∧ w.sequence = 0) ∧
    (∀ steps, Named 1 steps → Agreed w steps) ∧
    (∀ before after i h, (run w before).handles[i]? = some h →
      (∀ account, ⟨i, .rename account⟩ ∉ after) →
      ∃ h', (run w (before ++ after)).handles[i]? = some h' ∧ h'.account = h.account) ∧
    (∀ before mid mid' after, Named 1 (before ++ mid ++ after) → Named 1 (before ++ mid' ++ after) →
      Steady mid → mid.Perm mid' →
      SameSequence w (before ++ mid ++ after) (before ++ mid' ++ after)) ∧
    (∀ before s mid after, Named 1 (before ++ (s :: mid ++ [s]) ++ after) →
      Named 1 (before ++ s :: mid ++ after) → Steady (s :: mid) →
      SameSequence w (before ++ (s :: mid ++ [s]) ++ after) (before ++ s :: mid ++ after)) ∧
    ∀ steps s, Named 1 (steps ++ [s]) → ∀ x ∈ (run w steps).handles,
      ∀ y ∈ (run w (steps ++ [s])).handles,
      ((run w (steps ++ [s])).counters y).sequence < ((run w steps).counters x).sequence →
        s.deed.IsReset := by
  refine ⟨?fresh, fun steps named => agreed_run named, ?names, ?order, ?again, ?lower⟩
  case fresh =>
    intro text chainId made
    unfold Wallet.ofKeyText at made
    split at made
    · cases made
    · cases made
      exact ⟨rfl, rfl⟩
  case names =>
    intro before after i h there other
    rw [run, List.foldl_append]
    exact account_foldl there other
  case order =>
    intro before mid mid' after named named' steady order
    have steady' : Steady mid' := fun s hs => steady s (order.mem_iff.mpr hs)
    exact sameSequence_of_claims named named' steady steady' fun n =>
      ((order.map Step.deed).filterMap Deed.claim?).mem_iff
  case again =>
    intro before s mid after named named' steady
    have steady' : Steady (s :: mid ++ [s]) := by
      intro x hx
      rcases List.mem_append.mp hx with hmem | hmem
      · exact steady x hmem
      · exact steady x (by simp [List.mem_singleton.mp hmem])
    refine sameSequence_of_claims named named' steady' steady ?_
    intro n
    simp only [List.map_append, List.filterMap_append, List.mem_append, List.map_cons, List.map_nil,
      List.filterMap_cons, List.filterMap_nil]
    cases s.deed.claim? <;> simp
    tauto
  case lower =>
    intro steps s named x hx y hy lower
    exact isReset_of_lt named hx hy lower

theorem one_lt_order : 1 < Crypto.Secp256k1.order := by decide

def leastWallet : Wallet where
  key := ⟨1, Nat.one_pos, one_lt_order⟩
  account := Key.address ⟨1, Nat.one_pos, one_lt_order⟩
  chainId := "localterra"

/-- A clone under another name: through either handle the sequence goes to its end, and both see it go
back. -/
theorem handles_agree_cloned :
    let w := leastWallet
    let clone : Step := ⟨0, .clone (some "b")⟩
    let observe : Step := ⟨1, .observe ⟨3, 5⟩⟩
    let advance : Step := ⟨0, .advance Counters.lastSequence⟩
    let reset : Step := ⟨1, .reset ⟨4, 2⟩⟩
    Wallet.ofKeyText "0000000000000000000000000000000000000000000000000000000000000001"
        "localterra" = .ok w ∧ w.sequence = 0 ∧
      Agreed w [clone, observe, advance, reset] ∧
      (∃ h, (run w [clone, ⟨0, .rename "c"⟩]).handles[1]? = some h ∧ h.account = "b") ∧
      SameSequence w [clone, observe, advance, reset] [clone, advance, observe, reset] ∧
      SameSequence w [clone, observe, advance, observe] [clone, observe, advance] ∧
      reset.deed.IsReset := by
  intro w clone observe advance reset
  obtain ⟨hfresh, hagreed, hnames, horder, hagain, hlower⟩ := handles_agree w
  have hmade : Wallet.ofKeyText "0000000000000000000000000000000000000000000000000000000000000001"
      "localterra" = .ok w := rfl
  have hsteady : Steady [observe, advance] := by simp [Steady, Deed.IsReset, observe, advance]
  refine ⟨hmade, (hfresh _ _ hmade).2, hagreed [clone, observe, advance, reset] ?_,
    hnames [clone] [⟨0, .rename "c"⟩] 1 _ rfl (by simp),
    horder [clone] [observe, advance] [advance, observe] [reset] ?_ ?_ hsteady (.swap _ _ _),
    hagain [clone] observe [advance] [] ?_ ?_ hsteady,
    hlower [clone, advance] reset ?_ _ List.mem_cons_self _ List.mem_cons_self (by decide)⟩
  all_goals simp [Named, Step.grown, clone, observe, advance, reset]

end Proofs

end TxDispatch
