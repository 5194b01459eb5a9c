import TxDispatch.Proofs.ReportedSuccess
import TxDispatch.Session.Calls

namespace TxDispatch

open Text

/-- The texts of a code id: digits worth the id, which one plus sign may precede. -/
def CodeIdText (id : UInt64) (text : String) : Prop :=
  ∃ sign ds, (sign = [] ∨ sign = ['+']) ∧ text.toList = sign ++ ds ∧ ds ≠ [] ∧
    (∀ c ∈ ds, c.isDigit = true) ∧ Digits.value ds = id.toNat

theorem Scene.codeId?_eq_some_iff {text : String} {id : UInt64} :
    Scene.codeId? text = some id ↔ CodeIdText id text := by
  have hread : Scene.codeId? text = some id ↔
      Digits.readSigned? text.toList = some id.toNat := by
    simp only [Scene.codeId?, Option.bind_eq_bind, Option.bind_eq_some_iff,
      Digits.toWord64?_eq_some_iff, exists_eq_right]
  rw [hread, Digits.readSigned?_eq_some_iff]
  rfl

/-- Contracts can be created from the code of an id, whatever message and coins they are given. -/
def Creatable (id : UInt64) : Prop :=
  ∀ members migratable coins, (Operation.instantiate id (.obj members) migratable coins).check = .ok ()

theorem creatable_iff {id : UInt64} : Creatable id ↔ id ≠ 0 := by
  simp only [Creatable, Operation.check_eq_ok_iff, Operation.WellFormed, UInt64.pos_iff_ne_zero]
  constructor
  · intro h
    exact (h [] false []).1
  · intro h members _ _
    exact ⟨h, members, rfl⟩

namespace Proofs

open Scene

variable {σ : Type}

/-- The last contact between two scenes is an answer that succeeded and has a value at a target. -/
structure Gives (s t : Scene σ) (target : Target) (r : Receipt) (value : String) : Prop where
  last : ∃ before e, t.world.journal = s.world.journal ++ (before ++ [.sent e (.ok r)])
  success : r.verdict s.session.conflictCodes = .succeeded
  value : r.eventLog.extract? target = some value

structure Carries (done : Submission) (r : Receipt) (value : String) : Prop where
  txhash : done.txhash = r.txhash
  value : done.value = some value

theorem not_gives_self {s : Scene σ} {target : Target} {r : Receipt} {value : String} :
    ¬ Gives s s target r value := by
  rintro ⟨⟨before, e, hlast⟩, _, _⟩
  simp at hlast

/-- A submission for a value succeeds with the answer that gives one. -/
theorem gives_of_submit {c : Client σ} (order : Order) {s : Scene σ} {target : Target}
    {done : Submission} (asked : order.target = some target)
    (ok : (submit c order s).1 = .ok done) :
    ∃ r value, Gives s (submit c order s).2 target r value ∧ Carries done r value := by
  obtain ⟨heard, n', hj, _, hcourse⟩ := submit_course c order s
  obtain ⟨before, e, r, rfl, hreports⟩ := hcourse.reports ok
  have hsuccess : r.verdict s.session.conflictCodes = .succeeded :=
    Receipt.verdict_eq_succeeded_iff.mpr ⟨hreports.rawLog, by simp [Receipt.isError, hreports.code]⟩
  have hvalue : done.value = r.eventLog.extract? target := by rw [hreports.value, asked]; rfl
  obtain ⟨value, hsome⟩ := Option.isSome_iff_exists.mp (hreports.found (by simp [asked]))
  exact ⟨r, value, ⟨⟨before, e, hj⟩, hsuccess, hvalue.symm.trans hsome⟩, hreports.txhash, hsome⟩

/-- An answer that gives the value makes a submission for it succeed. -/
theorem submit_of_gives {c : Client σ} (order : Order) {s : Scene σ} {target : Target}
    {r : Receipt} {value : String} (asked : order.target = some target)
    (h : Gives s (submit c order s).2 target r value) :
    ∃ done, (submit c order s).1 = .ok done ∧ Carries done r value := by
  obtain ⟨heard, n', hj, _, hcourse⟩ := submit_course c order s
  obtain ⟨before, e, hlast⟩ := h.last
  rw [hlast] at hj
  obtain ⟨j, hresult⟩ :=
    hcourse.concluded_by (List.append_cancel_left hj).symm h.success
  rw [hresult, asked]
  simp only [Session.conclude, h.value]
  exact ⟨_, rfl, rfl, rfl⟩

section Upload

variable {c : Client σ} {bytecode : List UInt8} {fee : Option Fee} {s : Scene σ}

/-- An upload that returns an id read it off the value that the last answer gives. -/
theorem gives_of_deployCode {id : UInt64} (ok : (deployCode c bytecode fee s).1 = .ok id) :
    ∃ r value, Gives s (deployCode c bytecode fee s).2 .codeId r value ∧
      codeId? value = some id := by
  rw [deployCode_scene]
  unfold deployCode at ok
  cases hfee : feeOr fee s.session.fees.storeCode with
  | error f => simp [hfee] at ok
  | ok paid =>
    simp only [hfee] at ok ⊢
    cases hsubmit : submit c ⟨.storeCode bytecode, paid, some .codeId⟩ s with
    | mk result t =>
      cases result with
      | error f => simp [hsubmit] at ok
      | ok done =>
        obtain ⟨r, value, hgives, hcarries⟩ := gives_of_submit
          ⟨.storeCode bytecode, paid, some .codeId⟩ rfl (congrArg Prod.fst hsubmit)
        rw [hsubmit] at hgives
        refine ⟨r, value, hgives, ?_⟩
        cases hid : codeId? value with
        | none => simp [hsubmit, valueAt, hcarries.value, hid] at ok
        | some id' => simpa [hsubmit, valueAt, hcarries.value, hid] using ok

/-- With a value in the last answer an upload comes to what that value is worth. -/
theorem deployCode_of_gives {r : Receipt} {value : String}
    (h : Gives s (deployCode c bytecode fee s).2 .codeId r value) :
    (deployCode c bytecode fee s).1 =
      match codeId? value with
      | some id => .ok id
      | none => .error (.malformedValue r.txhash Target.codeId.attributeKey value) := by
  rw [deployCode_scene] at h
  unfold deployCode
  cases hfee : feeOr fee s.session.fees.storeCode with
  | error f =>
    rw [hfee] at h
    exact absurd h not_gives_self
  | ok paid =>
    rw [hfee] at h
    obtain ⟨done, hok, htxhash, hvalue⟩ := submit_of_gives
      ⟨.storeCode bytecode, paid, some .codeId⟩ rfl h
    cases hsubmit : submit c ⟨.storeCode bytecode, paid, some .codeId⟩ s with
    | mk result t =>
      rw [hsubmit] at hok
      obtain rfl : result = .ok done := hok
      simp only [hsubmit, valueAt, hvalue, htxhash]
      cases codeId? value <;> rfl

end Upload

/-- An upload returns an id exactly if the last answer succeeded and names the id at its place, and it
fails for what is named there if that is no id. Contracts can be created from all that it returns
exactly if the answer does not name zero. -/
theorem deployCode_returns (c : Client σ) (bytecode : List UInt8) (fee : Option Fee) (s : Scene σ) :
    let t := deployCode c bytecode fee s
    (∀ id, t.1 = .ok id ↔ ∃ r value, Gives s t.2 .codeId r value ∧ CodeIdText id value) ∧
    (∀ r value, Gives s t.2 .codeId r value → (∀ id, ¬ CodeIdText id value) →
      t.1 = .error (.malformedValue r.txhash "code_id" value)) ∧
    ((∀ id, t.1 = .ok id → Creatable id) ↔
      ¬ ∃ r value, Gives s t.2 .codeId r value ∧ CodeIdText 0 value) := by
  intro t
  have hok : ∀ id, t.1 = .ok id ↔ ∃ r value, Gives s t.2 .codeId r value ∧ CodeIdText id value := by
    intro id
    constructor
    · intro ok
      obtain ⟨r, value, hgives, hid⟩ := gives_of_deployCode ok
      exact ⟨r, value, hgives, codeId?_eq_some_iff.mp hid⟩
    · rintro ⟨r, value, hgives, hid⟩
      have hresult := deployCode_of_gives hgives
      rwa [codeId?_eq_some_iff.mpr hid] at hresult
  refine ⟨hok, ?_, ?_⟩
  · intro r value hgives hnone
    have hresult := deployCode_of_gives hgives
    have hid : codeId? value = none :=
      Option.eq_none_iff_forall_ne_some.mpr fun id h => hnone id (codeId?_eq_some_iff.mp h)
    rwa [hid] at hresult
  · rw [← hok 0]
    constructor
    · intro creatable ok
      exact creatable_iff.mp (creatable 0 ok) rfl
    · intro hzero id ok
      apply creatable_iff.mpr
      rintro rfl
      exact hzero ok

def namedScene (text : String) : Scene Scripted :=
  leastScene [.ok (Scripted.success 1 [⟨"store_code", [⟨"code_id", text⟩]⟩])]

def uploadNamed (text : String) : Except Failure UInt64 × Scene Scripted :=
  deployCode Scripted.client [0] (some leastOrder.fee) (namedScene text)

theorem uploadNamed_gives (text : String) :
    Gives (namedScene text) (uploadNamed text).2 .codeId
      (Scripted.success 1 [⟨"store_code", [⟨"code_id", text⟩]⟩]) text := by
  rw [uploadNamed, deployCode_scene]
  exact ⟨⟨[.looked "terra1" (.ok ⟨1, 0⟩)], _, rfl⟩, rfl, rfl⟩

/-- Zeros in front and a plus sign are no part of an id, and a minus sign makes it none. -/
theorem deployCode_returns_padded :
    (uploadNamed "+007").1 = .ok 7 ∧ CodeIdText 7 "+007" ∧
      (∃ r, (uploadNamed "-7").1 = .error (.malformedValue r "code_id" "-7")) ∧
      ∀ id, (uploadNamed "+007").1 = .ok id → Creatable id := by
  have hseven : CodeIdText 7 "+007" := codeId?_eq_some_iff.mp (by decide)
  have hread : ∀ id, ¬ CodeIdText id "-7" := by
    intro id hid
    cases (codeId?_eq_some_iff.mpr hid).symm.trans (by decide : codeId? "-7" = none)
  obtain ⟨hok, _, hcreatable⟩ :=
    deployCode_returns Scripted.client [0] (some leastOrder.fee) (namedScene "+007")
  obtain ⟨_, hmalformed, _⟩ :=
    deployCode_returns Scripted.client [0] (some leastOrder.fee) (namedScene "-7")
  have hgiven : (uploadNamed "+007").1 = .ok 7 :=
    (hok 7).mpr ⟨_, _, uploadNamed_gives "+007", hseven⟩
  refine ⟨hgiven, hseven, ⟨_, hmalformed _ _ (uploadNamed_gives "-7") hread⟩, hcreatable.mpr ?_⟩
  intro hzero
  exact absurd (Except.ok.inj (hgiven.symm.trans ((hok 0).mpr hzero))) (by decide)

/-- An upload hands out the id zero, from which no contract can be created. -/
theorem not_creatable_zero :
    (uploadNamed "0").1 = .ok 0 ∧ ¬ ∀ id, (uploadNamed "0").1 = .ok id → Creatable id := by
  have hzero : (uploadNamed "0").1 = .ok 0 := by
    have hresult := deployCode_of_gives (uploadNamed_gives "0")
    rwa [show codeId? "0" = some 0 by decide] at hresult
  refine ⟨hzero, fun creatable => ?_⟩
  exact creatable_iff.mp (creatable 0 hzero) rfl

end Proofs

end TxDispatch
