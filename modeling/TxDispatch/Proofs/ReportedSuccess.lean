import TxDispatch.Ledger.Gateway
import TxDispatch.Proofs.Outcomes

namespace TxDispatch.Proofs

open Scene
open Json (Tree)

variable {σ : Type}

/-- A submission that reports an answer. The answer succeeded, and the value is the one at the
target. -/
structure Reports (order : Order) (r : Receipt) (done : Submission) : Prop where
  code : r.code = 0
  rawLog : r.rawLog ≠ mismatchLog
  txhash : done.txhash = r.txhash
  height : done.height = r.height
  gasUsed : done.gasUsed = r.gasUsed
  value : done.value = order.target.bind fun t => r.eventLog.extract? t
  found : order.target.isSome = true → done.value.isSome = true

theorem conclude_reports {codes : List ConflictCode} {order : Order} {k : UInt32} {r : Receipt}
    {done : Submission} (success : r.verdict codes = .succeeded)
    (h : Session.conclude order.target k r = .ok done) : Reports order r done := by
  obtain ⟨hlog, herror⟩ := Receipt.verdict_eq_succeeded_iff.mp success
  have hcode : r.code = 0 := by simpa [Receipt.isError] using herror
  obtain ⟨ht, hc⟩ | ⟨t, _, _, hc⟩ | ⟨t, value, ht, hx, hc⟩ := conclude_cases order.target k r
  · obtain rfl := Except.ok.inj (hc.symm.trans h)
    exact ⟨hcode, hlog, rfl, rfl, rfl, by simp [ht], by simp [ht]⟩
  · cases hc.symm.trans h
  · obtain rfl := Except.ok.inj (hc.symm.trans h)
    exact ⟨hcode, hlog, rfl, rfl, rfl, by simp [ht, hx], by simp⟩

/-- A course that succeeds ends with the answer that it reports. -/
theorem Course.reports {c : Client σ} {s : Session} {order : Order} {k : Nat} {n n' : Counters}
    {l l' : σ} {heard : List Contact} {result : Except Failure Submission} {done : Submission}
    (h : Course c s order k n l heard result n' l') (ok : result = .ok done) :
    ∃ before e r, heard = before ++ [.sent e (.ok r)] ∧ Reports order r done := by
  induction h with
  | unanswered _ | refused _ _ | unsent _ | rejected _ _ | exhausted _ _ _ => cases ok
  | @succeeded k n l info m e r l' made success =>
    exact ⟨[.looked s.wallet.account (.ok info)], e, r, rfl, conclude_reports success ok⟩
  | @again k n l info m e r l' ms heard result n' l'' made conflict left rest ih =>
    obtain ⟨before, e', r', rfl, hreports⟩ := ih ok
    exact ⟨.looked s.wallet.account (.ok info) :: .sent e (.ok r) :: .rested ms :: before, e', r',
      rfl, hreports⟩

/-- A course whose last contact is a success is concluded by it. -/
theorem Course.concluded_by {c : Client σ} {s : Session} {order : Order} {k : Nat}
    {n n' : Counters} {l l' : σ} {heard before : List Contact} {result : Except Failure Submission}
    {e : Envelope} {r : Receipt} (h : Course c s order k n l heard result n' l')
    (hs : heard = before ++ [.sent e (.ok r)]) (success : r.verdict s.conflictCodes = .succeeded) :
    ∃ j, result = Session.conclude order.target j r := by
  obtain ⟨_, m, made, _, hsettle⟩ := h.settled hs (by simp [success])
  simp only [settle_shape, success] at hsettle
  exact ⟨made, (Option.some.inj (congrArg Prod.snd hsettle)).symm⟩

theorem conclude_missing {t : Target} {k : UInt32} {r : Receipt} (quiet : r.eventLog = []) :
    Session.conclude (some t) k r = .error (.missingEvent r.txhash t.eventType t.attributeKey) := by
  simp [Session.conclude, quiet, EventLog.extract?]

/-- An answer without events is a success if no value is asked for. -/
theorem conclude_ok_iff {target : Option Target} {k : UInt32} {r : Receipt}
    (quiet : r.eventLog = []) :
    (∃ done, Session.conclude target k r = .ok done) ↔ target = none := by
  cases target with
  | none => simp [Session.conclude]
  | some t => simp [conclude_missing quiet]

def outcomeFields : List String :=
  ["height", "txhash", "code", "codespace", "raw_log", "logs", "gas_wanted", "gas_used"]

/-- A record that tells nothing of a transaction. -/
def Silent : Tree → Prop
  | .obj members => ∀ m ∈ members, ∃ name, m.1 = some name ∧ name ∉ outcomeFields
  | .arr items => items = []
  | _ => False

theorem member?_of_silent {members : List (Option String × Tree)} {name : String}
    (h : Silent (.obj members)) (hname : name ∈ outcomeFields) :
    Tree.member? name members = some none := by
  apply Tree.member?_absent
  intro hmem
  obtain ⟨m, hm, same⟩ := List.mem_map.mp hmem
  obtain ⟨other, hother, hnew⟩ := h m hm
  rw [hother] at same
  exact hnew (Option.some.inj same ▸ hname)

theorem fields?_of_silent {members : List (Option String × Tree)} (h : Silent (.obj members)) :
    Tree.fields? false outcomeFields (.obj members) = some (outcomeFields.map fun _ => none) := by
  have hkeys : (members.all fun m => m.1.isSome) = true := by
    rw [List.all_eq_true]
    intro m hm
    obtain ⟨name, hn, _⟩ := h m hm
    simp [hn]
  have hfields : ∀ names, names ⊆ outcomeFields →
      names.mapM (fun name => Tree.member? name members) =
        some (names.map fun _ => (none : Option Tree)) := by
    intro names hsub
    induction names with
    | nil => rfl
    | cons name names ih =>
      obtain ⟨hname, hnames⟩ := List.cons_subset.mp hsub
      simp [List.mapM_cons, member?_of_silent h hname, ih hnames]
  simp only [Tree.fields?, hkeys, if_true]
  exact hfields _ (List.Subset.refl _)

/-- Fields that are absent are read as those of a transaction that succeeded in no block. -/
theorem ofTree?_of_silent {t : Tree} (h : Silent t) : Receipt.ofTree? t = some {} := by
  cases t with
  | obj members =>
    have hfields := fields?_of_silent h
    unfold outcomeFields at hfields
    unfold Receipt.ofTree?
    rw [hfields]
    rfl
  | arr items =>
    obtain rfl : items = [] := h
    rfl
  | null | bool _ | num _ | str _ => exact h.elim

/-- A gateway that answers so is heard to report a success in no block. -/
theorem result_of_silent {t : Tree} {status : Nat} {body : String} (url : Url)
    (success : Exchange.isSuccess status = true)
    (read : Tree.ofText? (Gateway.bodyOf status body) = some t) (h : Silent t) :
    Gateway.result Receipt.ofTree? url (.answered status body) = .ok {} := by
  simp [Gateway.result, success, read, ofTree?_of_silent h]

/-- A submission succeeds only with its last answer, which has no error code and is no mismatch, and
whose height it reports as it stands. An answer that tells nothing of the transaction counts as one
in no block, unless a value is asked for, which it then misses. -/
theorem submit_ok_reports (c : Client σ) (order : Order) (s : Scene σ) :
    (∀ done, (submit c order s).1 = .ok done →
      ∃ before e r, (submit c order s).2.world.journal =
        s.world.journal ++ (before ++ [.sent e (.ok r)]) ∧ Reports order r done) ∧
    ∀ url status body t, Exchange.isSuccess status = true →
      Tree.ofText? (Gateway.bodyOf status body) = some t → Silent t →
      ∃ r, Gateway.result Receipt.ofTree? url (.answered status body) = .ok r ∧
        r.code = 0 ∧ r.height = 0 ∧
        ∀ before e, (submit c order s).2.world.journal =
            s.world.journal ++ (before ++ [.sent e (.ok r)]) →
          ((∃ done, (submit c order s).1 = .ok done) ↔ order.target = none) ∧
          ∀ target, order.target = some target → (submit c order s).1 =
            .error (.missingEvent r.txhash target.eventType target.attributeKey) := by
  obtain ⟨heard, n', hj, _, hcourse⟩ := submit_course c order s
  constructor
  · intro done ok
    obtain ⟨before, e, r, rfl, hreports⟩ := hcourse.reports ok
    exact ⟨before, e, r, hj, hreports⟩
  · intro url status body t success read silent
    refine ⟨{}, result_of_silent url success read silent, rfl, rfl, ?_⟩
    intro before e hlast
    rw [hlast] at hj
    obtain ⟨j, hresult⟩ := hcourse.concluded_by (List.append_cancel_left hj).symm
      (Receipt.verdict_eq_succeeded_iff.mpr ⟨by decide, rfl⟩)
    rw [hresult]
    refine ⟨conclude_ok_iff rfl, ?_⟩
    intro target asked
    rw [asked]
    exact conclude_missing rfl

def vagueBody : String := "\x7b\"result\":null\x7d"

def gatewayUrl : Url :=
  { scheme := "http", host := some (.domain "gateway"), path := .segments ["txs"] }

theorem vagueBody_toList : vagueBody.toList =
    ['\x7b', '"', 'r', 'e', 's', 'u', 'l', 't', '"', ':', 'n', 'u', 'l', 'l', '\x7d'] := by
  simp [vagueBody]

theorem vagueBody_tree :
    Tree.ofText? (Gateway.bodyOf 200 vagueBody) = some (.obj [(some "result", .null)]) := by
  have hbody : Gateway.bodyOf 200 vagueBody = vagueBody := rfl
  rw [hbody, Tree.ofText?, vagueBody_toList]
  rfl

theorem vagueBody_silent : Silent (.obj [(some "result", .null)]) := by
  intro m hm
  obtain rfl := List.mem_singleton.mp hm
  exact ⟨"result", rfl, by decide⟩

/-- The answer that a silent body is read as is reported as a success, and no block holds it. -/
theorem submit_ok_reports_vague :
    let s := leastScene [.ok {}]
    (submit Scripted.client leastOrder s).1 = .ok ⟨"", 0, 0, 1, none⟩ ∧
      (∃ before e r, (submit Scripted.client leastOrder s).2.world.journal =
        [] ++ (before ++ [.sent e (.ok r)]) ∧ Reports leastOrder r ⟨"", 0, 0, 1, none⟩) ∧
      Exchange.isSuccess 200 = true ∧
      Tree.ofText? (Gateway.bodyOf 200 vagueBody) = some (.obj [(some "result", .null)]) ∧
      Silent (.obj [(some "result", .null)]) ∧
      ∃ r, Gateway.result Receipt.ofTree? gatewayUrl (.answered 200 vagueBody) = .ok r ∧
        r.code = 0 ∧ r.height = 0 ∧
        ∀ before e, (submit Scripted.client leastOrder s).2.world.journal =
            [] ++ (before ++ [.sent e (.ok r)]) →
          ((∃ done, (submit Scripted.client leastOrder s).1 = .ok done) ↔
            leastOrder.target = none) ∧
          ∀ target, leastOrder.target = some target → (submit Scripted.client leastOrder s).1 =
            .error (.missingEvent r.txhash target.eventType target.attributeKey) :=
  ⟨rfl, (submit_ok_reports Scripted.client leastOrder (leastScene [.ok {}])).1 _ rfl, rfl,
    vagueBody_tree, vagueBody_silent,
    (submit_ok_reports Scripted.client leastOrder (leastScene [.ok {}])).2 gatewayUrl 200 vagueBody _
      rfl vagueBody_tree vagueBody_silent⟩

/-- A gateway that says nothing of the transaction makes a submission report one in no block. -/
theorem not_included_of_vague :
    Gateway.result Receipt.ofTree? gatewayUrl (.answered 200 vagueBody) = .ok {} ∧
      ¬ ∀ done, (submit Scripted.client leastOrder (leastScene [.ok {}])).1 = .ok done →
        0 < done.height := by
  refine ⟨result_of_silent gatewayUrl rfl vagueBody_tree vagueBody_silent, ?_⟩
  intro h
  exact absurd (h ⟨"", 0, 0, 1, none⟩ rfl) (by decide)

end TxDispatch.Proofs
