import TxDispatch.Config.Check

namespace TxDispatch

open Text

inductive Rule where
  | gatewayUrl
  | failoverUrl (index : Nat)
  | chainId
  | requestTimeout
  | broadcastMode
  | keyVariable
  | attempts
  | delays
  | fee (kind : Operation.Kind)
  | logFormat
  | metricsAddress
deriving DecidableEq

namespace Rule

def path : Rule → String × String
  | gatewayUrl => ("ledger", "lcd_url")
  | failoverUrl _ => ("ledger", "failover_urls")
  | chainId => ("ledger", "chain_id")
  | requestTimeout => ("ledger", "request_timeout_secs")
  | broadcastMode => ("ledger", "broadcast_mode")
  | keyVariable => ("signer", "private_key_env")
  | attempts => ("retries", "max_attempts")
  | delays => ("retries", "base_delay_ms")
  | fee .storeCode => ("fees", "store_code")
  | fee .instantiate => ("fees", "instantiate")
  | fee .execute => ("fees", "execute")
  | logFormat => ("observability", "log_format")
  | metricsAddress => ("observability", "metrics_address")

def item? : Rule → Option Nat
  | failoverUrl i => some i
  | _ => none

def field (r : Rule) : String :=
  r.path.1 ++ "." ++ r.path.2 ++
    match r.item? with
    | none => ""
    | some i => "[" ++ Digits.text i ++ "]"

def schema : List (String × String) :=
  ["lcd_url", "failover_urls", "chain_id", "request_timeout_secs", "broadcast_mode",
    "verify_chain_id"].map ("ledger", ·) ++
  ["private_key_env", "account_address", "memo"].map ("signer", ·) ++
  ["max_attempts", "base_delay_ms", "max_delay_ms", "sequence_conflict_codes"].map ("retries", ·) ++
  ["store_code", "instantiate", "execute"].map ("fees", ·) ++
  ["log_level", "log_format", "metrics_enabled", "metrics_address"].map ("observability", ·)

def position (r : Rule) : Nat := schema.idxOf r.path

/-- The rule is about an earlier field of the schema, or about an earlier item of the same field. -/
def Before (r r' : Rule) : Prop :=
  r.position < r'.position ∨ r.position = r'.position ∧ r.item?.getD 0 < r'.item?.getD 0

def Violated (c : Config) : Rule → Prop
  | gatewayUrl => ¬ ∃ u, Url.parse c.ledger.gatewayUrl = .ok u
  | failoverUrl i => ∃ url, c.ledger.failoverUrls[i]? = some url ∧ ¬ ∃ u, Url.parse url = .ok u
  | chainId => isBlank c.ledger.chainId = true
  | requestTimeout => c.ledger.requestTimeout = 0
  | broadcastMode => c.ledger.broadcastMode ∉ ["block"]
  | keyVariable => isBlank c.signer.privateKeyEnv = true
  | attempts => c.retries.maxAttempts = 0
  | delays => c.retries.maxDelay < c.retries.baseDelay
  | fee kind => ¬ ∃ fee, (c.fees.forKind kind).toFee = .ok fee
  | logFormat => c.observability.logFormat ∉ ["pretty", "json"]
  | metricsAddress => c.observability.metricsEnabled = true ∧
      SocketAddress.parse? c.observability.metricsAddress = none

/-- Two configurations have in common what a rule looks at. -/
def Agrees (c c' : Config) : Rule → Prop
  | gatewayUrl => c.ledger.gatewayUrl = c'.ledger.gatewayUrl
  | failoverUrl i => c.ledger.failoverUrls[i]? = c'.ledger.failoverUrls[i]?
  | chainId => c.ledger.chainId = c'.ledger.chainId
  | requestTimeout => c.ledger.requestTimeout = c'.ledger.requestTimeout
  | broadcastMode => c.ledger.broadcastMode = c'.ledger.broadcastMode
  | keyVariable => c.signer.privateKeyEnv = c'.signer.privateKeyEnv
  | attempts => c.retries.maxAttempts = c'.retries.maxAttempts
  | delays => c.retries.baseDelay = c'.retries.baseDelay ∧ c.retries.maxDelay = c'.retries.maxDelay
  | fee kind => c.fees.forKind kind = c'.fees.forKind kind
  | logFormat => c.observability.logFormat = c'.observability.logFormat
  | metricsAddress => c.observability.metricsEnabled = c'.observability.metricsEnabled ∧
      c.observability.metricsAddress = c'.observability.metricsAddress

end Rule

namespace ConfigProblem

def rule : ConfigProblem → Rule
  | gatewayUrl _ => .gatewayUrl
  | failoverUrl i _ => .failoverUrl i
  | blankChainId => .chainId
  | noTimeout => .requestTimeout
  | broadcastMode => .broadcastMode
  | blankKeyVariable => .keyVariable
  | noAttempts => .attempts
  | delaysOutOfOrder => .delays
  | fee kind _ => .fee kind
  | logFormat => .logFormat
  | metricsAddress => .metricsAddress

/-- The configuration breaks the problem's rule, and for the reason that the problem tells. -/
def Applies (c : Config) : ConfigProblem → Prop
  | gatewayUrl e => Url.parse c.ledger.gatewayUrl = .error e
  | failoverUrl i e => ∃ url, c.ledger.failoverUrls[i]? = some url ∧ Url.parse url = .error e
  | fee kind e => (c.fees.forKind kind).toFee = .error e
  | p => p.rule.Violated c

theorem field_eq (p : ConfigProblem) : p.field = p.rule.field := by
  cases p with
  | failoverUrl i e =>
    have hopen : "ledger" ++ "." ++ "failover_urls" ++ "[" = "ledger.failover_urls[" := rfl
    change "ledger.failover_urls[" ++ Digits.text i ++ "]" =
      "ledger" ++ "." ++ "failover_urls" ++ ("[" ++ Digits.text i ++ "]")
    rw [← String.append_assoc, ← String.append_assoc, hopen]
  | fee kind e => cases kind <;> rfl
  | _ => rfl

end ConfigProblem

namespace Rule

variable {c c' : Config} {r r' : Rule}

def plain : List Rule := [gatewayUrl, chainId, requestTimeout, broadcastMode, keyVariable, attempts,
  delays, fee .storeCode, fee .instantiate, fee .execute, logFormat, metricsAddress]

theorem plain_or_item (r : Rule) : r ∈ plain ∨ ∃ i, r = failoverUrl i := by
  cases r with
  | failoverUrl i => exact .inr ⟨i, rfl⟩
  | fee kind => cases kind <;> exact .inl (by decide)
  | _ => exact .inl (by decide)

theorem field_failoverUrl (i : Nat) : (failoverUrl i).field.toList =
    "ledger.failover_urls[".toList ++ Digits.ofNat i ++ [']'] := by
  simp [field, path, item?, Digits.text]

theorem field_plain_ne (h : r ∈ plain) (i : Nat) : r.field ≠ (failoverUrl i).field := by
  intro same
  have hends : ∀ r ∈ plain, r.field.toList.getLast? ≠ some ']' := by decide
  apply hends r h
  rw [same, field_failoverUrl, List.getLast?_concat]

/-- Rules are told apart by their names. -/
theorem field_injective (same : r.field = r'.field) : r = r' := by
  rcases plain_or_item r with hr | ⟨i, rfl⟩ <;> rcases plain_or_item r' with hr' | ⟨j, rfl⟩
  · have hdistinct : ∀ r ∈ plain, ∀ r' ∈ plain, r.field = r'.field → r = r' := by decide
    exact hdistinct r hr r' hr' same
  · exact absurd same (field_plain_ne hr j)
  · exact absurd same.symm (field_plain_ne hr' i)
  · have hdigits : Digits.ofNat i = Digits.ofNat j := by
      have hlist := congrArg String.toList same
      rw [field_failoverUrl, field_failoverUrl] at hlist
      simpa using hlist
    rw [Digits.ofNat_injective hdigits]

instance (r r' : Rule) : Decidable (Before r r') := inferInstanceAs (Decidable (_ ∨ _))

theorem Before.asymm (h : Before r r') : ¬ Before r' r := by
  unfold Before at *
  omega

theorem Before.ne (h : Before r r') : r ≠ r' := by
  rintro rfl
  exact h.asymm h

end Rule

namespace Config

open ConfigProblem

variable {c c' : Config}

def laterRules : List Rule := [.chainId, .requestTimeout, .broadcastMode, .keyVariable, .attempts,
  .delays, .fee .storeCode, .fee .instantiate, .fee .execute, .logFormat, .metricsAddress]

/-- All rules for a configuration: there is one for each of its failover URLs. -/
def rules (c : Config) : List Rule :=
  .gatewayUrl :: ((List.range c.ledger.failoverUrls.length).map .failoverUrl ++ laterRules)

def problemsOf (c : Config) : Rule → List ConfigProblem
  | .gatewayUrl => urlProblems .gatewayUrl c.ledger.gatewayUrl
  | .failoverUrl i => c.ledger.failoverUrls[i]?.elim [] (urlProblems (.failoverUrl i))
  | .chainId => when (isBlank c.ledger.chainId) .blankChainId
  | .requestTimeout => when (c.ledger.requestTimeout == 0) .noTimeout
  | .broadcastMode => when (!broadcastModes.contains c.ledger.broadcastMode) .broadcastMode
  | .keyVariable => when (isBlank c.signer.privateKeyEnv) .blankKeyVariable
  | .attempts => when (c.retries.maxAttempts == 0) .noAttempts
  | .delays => when (c.retries.maxDelay < c.retries.baseDelay) .delaysOutOfOrder
  | .fee kind => feeProblems kind (c.fees.forKind kind)
  | .logFormat => when (!logFormats.contains c.observability.logFormat) .logFormat
  | .metricsAddress => when (c.observability.metricsEnabled &&
      (SocketAddress.parse? c.observability.metricsAddress).isNone) .metricsAddress

/-- What is found in the items of a list is found place by place. -/
theorem flatMap_zipIdx {α β : Type} (find : Nat → α → List β) (xs : List α) :
    xs.zipIdx.flatMap (fun x => find x.2 x.1) =
      (List.range xs.length).flatMap fun i => xs[i]?.elim [] (find i) := by
  induction xs generalizing find with
  | nil => rfl
  | cons x xs ih =>
    have hrest := ih fun i => find (i + 1)
    rw [List.zipIdx_cons, List.flatMap_cons, List.zipIdx_succ, List.flatMap_map, List.length_cons,
      List.range_succ_eq_map, List.flatMap_cons, List.flatMap_map]
    exact congrArg (find 0 x ++ ·) hrest

theorem problems_eq (c : Config) : c.problems = c.rules.flatMap c.problemsOf := by
  have hfailovers := flatMap_zipIdx (fun i => urlProblems (.failoverUrl i)) c.ledger.failoverUrls
  simp only [problems, hfailovers, rules, laterRules, List.flatMap_cons, List.flatMap_append,
    List.flatMap_map, List.flatMap_nil, List.append_nil, List.append_assoc]
  rfl

variable {r : Rule} {p : ConfigProblem}

/-- A rule finds nothing where it is kept. -/
theorem problemsOf_eq_nil_iff : c.problemsOf r = [] ↔ ¬ r.Violated c := by
  cases r with
  | gatewayUrl => simp [problemsOf, urlProblems_eq_nil_iff, Rule.Violated]
  | failoverUrl i =>
    cases hurl : c.ledger.failoverUrls[i]? with
    | none => simp [problemsOf, Rule.Violated, hurl]
    | some url => simp [problemsOf, urlProblems_eq_nil_iff, Rule.Violated, hurl]
  | fee kind => simp [problemsOf, feeProblems_eq_nil_iff, Rule.Violated]
  | metricsAddress =>
    simp [problemsOf, when_eq_nil_iff, Rule.Violated, Option.isSome_iff_ne_none]
  | _ => simp [problemsOf, when_eq_nil_iff, Rule.Violated, broadcastModes, logFormats]

theorem when_sublist (found : Bool) (p : ConfigProblem) :
    ((when found p).map rule).Sublist [p.rule] := by
  cases found <;> simp [when]

theorem urlProblems_sublist (problem : UrlError → ConfigProblem) (h : ∀ e, (problem e).rule = r)
    (url : String) : ((urlProblems problem url).map rule).Sublist [r] := by
  unfold urlProblems
  cases Url.parse url <;> simp [h]

/-- A rule finds at most one problem, which is its own. -/
theorem problemsOf_sublist (c : Config) (r : Rule) : ((c.problemsOf r).map rule).Sublist [r] := by
  cases r with
  | gatewayUrl => exact urlProblems_sublist .gatewayUrl (fun _ => rfl) _
  | failoverUrl i =>
    rw [problemsOf]
    cases c.ledger.failoverUrls[i]? with
    | none => simp
    | some url => exact urlProblems_sublist (.failoverUrl i) (fun _ => rfl) url
  | fee kind =>
    rw [problemsOf, feeProblems]
    cases (c.fees.forKind kind).toFee <;> simp [rule]
  | _ => exact when_sublist _ _

theorem rule_of_mem (h : p ∈ c.problemsOf r) : p.rule = r :=
  List.mem_singleton.mp ((problemsOf_sublist c r).subset (List.mem_map_of_mem h))

/-- A rule tells the reason for which it is broken. -/
theorem mem_problemsOf_rule : p ∈ c.problemsOf p.rule ↔ p.Applies c := by
  have hwhen : ∀ (found : Bool) (p : ConfigProblem), p ∈ when found p ↔ found = true := by
    intro found p
    cases found <;> simp [when]
  have hurl : ∀ {problem : UrlError → ConfigProblem} {url : String} {e : UrlError},
      (∀ e', problem e = problem e' → e = e') →
      (problem e ∈ urlProblems problem url ↔ Url.parse url = .error e) := by
    intro problem url e injective
    unfold urlProblems
    cases Url.parse url with
    | ok u => simp
    | error e' => simpa using ⟨fun h => (injective e' h).symm, fun h => by rw [h]⟩
  cases p with
  | gatewayUrl e => exact hurl (by simp)
  | failoverUrl i e =>
    cases hi : c.ledger.failoverUrls[i]? with
    | none => simp [rule, problemsOf, Applies, hi]
    | some url => simpa [rule, problemsOf, Applies, hi] using hurl (by simp)
  | fee kind e =>
    simp only [rule, problemsOf, feeProblems, Applies]
    cases (c.fees.forKind kind).toFee <;> simp [eq_comm]
  | _ => simp [rule, problemsOf, Applies, hwhen, Rule.Violated, broadcastModes, logFormats]

/-- A rule finds the same in what it looks at, wherever that stands. -/
theorem problemsOf_congr (agrees : r.Agrees c c') : c.problemsOf r = c'.problemsOf r := by
  cases r with
  | delays | metricsAddress =>
    obtain ⟨h, h'⟩ := agrees
    rw [problemsOf, problemsOf, h, h']
  | _ =>
    rw [Rule.Agrees] at agrees
    rw [problemsOf, problemsOf, agrees]

theorem violated_mem_rules (h : r.Violated c) : r ∈ c.rules := by
  cases r with
  | failoverUrl i =>
    obtain ⟨url, hurl, _⟩ := h
    obtain ⟨hlt, _⟩ := List.getElem?_eq_some_iff.mp hurl
    simp [rules, hlt]
  | fee kind => cases kind <;> simp [rules, laterRules]
  | _ => simp [rules, laterRules]

/-- A rule is broken exactly if a problem of it is listed. -/
theorem violated_iff : r.Violated c ↔ ∃ p ∈ c.problems, p.rule = r := by
  rw [problems_eq]
  constructor
  · intro h
    have hsome : c.problemsOf r ≠ [] := fun hnone => problemsOf_eq_nil_iff.mp hnone h
    obtain ⟨p, hp⟩ := List.exists_mem_of_ne_nil _ hsome
    exact ⟨p, List.mem_flatMap.mpr ⟨r, violated_mem_rules h, hp⟩, rule_of_mem hp⟩
  · rintro ⟨p, hp, rfl⟩
    obtain ⟨r, _, hr⟩ := List.mem_flatMap.mp hp
    rw [rule_of_mem hr]
    exact Classical.byContradiction fun hkept => by simp [problemsOf_eq_nil_iff.mpr hkept] at hr

/-- The problems listed are the violations, each with its reason. -/
theorem mem_problems_iff : p ∈ c.problems ↔ p.Applies c := by
  rw [← mem_problemsOf_rule, problems_eq, List.mem_flatMap]
  constructor
  · rintro ⟨r, _, hr⟩
    rwa [rule_of_mem hr]
  · intro h
    have hviolated : p.rule.Violated c :=
      Classical.byContradiction fun hkept => by simp [problemsOf_eq_nil_iff.mpr hkept] at h
    exact ⟨p.rule, violated_mem_rules hviolated, h⟩

theorem rules_pairwise (c : Config) : c.rules.Pairwise Rule.Before := by
  have hitems : ((List.range c.ledger.failoverUrls.length).map Rule.failoverUrl).Pairwise
      Rule.Before :=
    List.pairwise_map.mpr (List.pairwise_lt_range.imp fun h => .inr ⟨rfl, h⟩)
  have hitem : ∀ i, ∀ r ∈ laterRules, (Rule.failoverUrl i).Before r := by
    intro i r hr
    have hfirst : ∀ r ∈ laterRules, (Rule.failoverUrl 0).position < r.position := by decide
    exact .inl (hfirst r hr)
  have hgateway : ∀ r ∈ laterRules, Rule.gatewayUrl.Before r := by decide
  have hlater : laterRules.Pairwise Rule.Before := by decide
  refine List.pairwise_cons.mpr ⟨?_, List.pairwise_append.mpr ⟨hitems, hlater, ?_⟩⟩
  · intro r hr
    rcases List.mem_append.mp hr with hr | hr
    · obtain ⟨i, _, rfl⟩ := List.mem_map.mp hr
      exact .inl (by decide : Rule.gatewayUrl.position < (Rule.failoverUrl 0).position)
    · exact hgateway r hr
  · intro r hr
    obtain ⟨i, _, rfl⟩ := List.mem_map.mp hr
    exact hitem i

/-- The problems are listed in the order of the schema. -/
theorem problems_pairwise (c : Config) :
    c.problems.Pairwise fun p q => p.rule.Before q.rule := by
  have hsublist : (c.problems.map rule).Sublist c.rules := by
    rw [problems_eq]
    generalize c.rules = rs
    induction rs with
    | nil => simp
    | cons r rs ih =>
      rw [List.flatMap_cons, List.map_append]
      exact (problemsOf_sublist c r).append ih
  exact List.pairwise_map.mp ((rules_pairwise c).sublist hsublist)

/-- Two lists of problems in the order of the schema are the same if they hold the same problems. -/
theorem eq_of_ordered {ps qs : List ConfigProblem}
    (hps : ps.Pairwise fun p q => p.rule.Before q.rule)
    (hqs : qs.Pairwise fun p q => p.rule.Before q.rule) (same : ∀ p, p ∈ ps ↔ p ∈ qs) :
    ps = qs := by
  have hdistinct : ∀ {xs : List ConfigProblem}, (xs.Pairwise fun p q => p.rule.Before q.rule) →
      xs.Nodup := fun h => h.imp fun before same => before.ne (congrArg rule same)
  have hperm : ps.Perm qs :=
    (List.perm_ext_iff_of_nodup (hdistinct hps) (hdistinct hqs)).mpr same
  exact hperm.eq_of_pairwise (fun _ _ _ _ h h' => absurd h' h.asymm) hps hqs

/-- What is listed by some rules is the same where the configurations agree for these rules. -/
theorem filter_congr_of_agrees {which : Rule → Bool}
    (agree : ∀ r, which r = true → r.Agrees c c') :
    c.problems.filter (fun p => which p.rule) = c'.problems.filter fun p => which p.rule := by
  refine eq_of_ordered ((problems_pairwise c).filter _) ((problems_pairwise c').filter _) ?_
  intro p
  simp only [List.mem_filter, mem_problems_iff, ← mem_problemsOf_rule]
  exact and_congr_left fun hwhich => by rw [problemsOf_congr (agree _ hwhich)]

/-- A rule that is kept again leaves a gap where its problem was listed. -/
theorem problems_of_repaired (broken : r.Violated c) (kept : ¬ r.Violated c')
    (agree : ∀ r', r' ≠ r → r'.Agrees c c') :
    ∃ before p after, p.rule = r ∧ c.problems = before ++ p :: after ∧
      c'.problems = before ++ after := by
  obtain ⟨p, hp, rfl⟩ := violated_iff.mp broken
  obtain ⟨before, after, hsplit⟩ := List.append_of_mem hp
  refine ⟨before, p, after, rfl, hsplit, ?_⟩
  have hordered := problems_pairwise c
  rw [hsplit, List.pairwise_append, List.pairwise_cons] at hordered
  obtain ⟨_, ⟨hafter, _⟩, hbefore⟩ := hordered
  have hothers : ∀ q ∈ before ++ after, decide (q.rule ≠ p.rule) = true := by
    intro q hq
    rcases List.mem_append.mp hq with hq | hq
    · exact decide_eq_true (hbefore q hq p List.mem_cons_self).ne
    · exact decide_eq_true (hafter q hq).ne.symm
  have hkept : ∀ q ∈ c'.problems, decide (q.rule ≠ p.rule) = true :=
    fun q hq => decide_eq_true fun same => kept (violated_iff.mpr ⟨q, hq, same⟩)
  calc c'.problems
    _ = c'.problems.filter fun q => decide (q.rule ≠ p.rule) := (List.filter_eq_self.mpr hkept).symm
    _ = c.problems.filter fun q => decide (q.rule ≠ p.rule) :=
      (filter_congr_of_agrees fun r' h => agree r' (of_decide_eq_true h)).symm
    _ = (before ++ after).filter fun q => decide (q.rule ≠ p.rule) := by
      simp [hsplit, List.filter_append]
    _ = before ++ after := List.filter_eq_self.mpr hothers

end Config

namespace Proofs

open ConfigProblem

/-- The problems of a configuration are the violations of its rules with their reasons, each named
once and in the order of the schema. -/
structure ListsViolations (c : Config) : Prop where
  reasons : ∀ p, p ∈ c.problems ↔ p.Applies c
  names : ∀ name, name ∈ c.problems.map field ↔ ∃ r : Rule, r.Violated c ∧ r.field = name
  once : (c.problems.map field).Nodup
  ordered : c.problems.Pairwise fun p q => p.rule.Before q.rule
  valid : c.isValid = true ↔ ∀ r : Rule, ¬ r.Violated c

theorem listsViolations (c : Config) : ListsViolations c where
  reasons _ := Config.mem_problems_iff
  names name := by
    rw [List.mem_map]
    constructor
    · rintro ⟨p, hp, rfl⟩
      exact ⟨p.rule, Config.violated_iff.mpr ⟨p, hp, rfl⟩, p.field_eq.symm⟩
    · rintro ⟨r, hr, rfl⟩
      obtain ⟨p, hp, rfl⟩ := Config.violated_iff.mp hr
      exact ⟨p, hp, p.field_eq⟩
  once := by
    refine List.pairwise_map.mpr ((Config.problems_pairwise c).imp ?_)
    intro p q before same
    rw [p.field_eq, q.field_eq] at same
    exact before.ne (Rule.field_injective same)
  ordered := Config.problems_pairwise c
  valid := by
    rw [Config.isValid, List.isEmpty_iff, List.eq_nil_iff_forall_not_mem]
    constructor
    · intro h r hr
      obtain ⟨p, hp, _⟩ := Config.violated_iff.mp hr
      exact h p hp
    · intro h p hp
      exact h p.rule (Config.violated_iff.mpr ⟨p, hp, rfl⟩)

/-- All violations of the rules are listed and nothing else. What is listed for some rules depends
on what these rules look at alone; so where one rule is kept again, its problem is gone and all
others are as they were. -/
theorem problems_ruleByRule (c c' : Config) :
    ListsViolations c ∧
    (∀ which : Rule → Bool, (∀ r, which r = true → r.Agrees c c') →
      c.problems.filter (fun p => which p.rule) = c'.problems.filter fun p => which p.rule) ∧
    ∀ r : Rule, r.Violated c → ¬ r.Violated c' → (∀ r', r' ≠ r → r'.Agrees c c') →
      ∃ before p after, p.rule = r ∧ c.problems = before ++ p :: after ∧
        c'.problems = before ++ after :=
  ⟨listsViolations c, fun _ agree => Config.filter_congr_of_agrees agree,
    fun _ broken kept agree => Config.problems_of_repaired broken kept agree⟩

def brokenConfig (url : String) : Config where
  ledger := { failoverUrls := [url, "http://a", "http://[", "lcd"], broadcastMode := "sync" }
  retries := { baseDelay := 9000 }
  fees := { execute := ⟨0, "1000000uusd"⟩ }
  observability := { metricsEnabled := true, metricsAddress := "nowhere" }

theorem brokenConfig_problems : (brokenConfig "lcd").problems =
    [.failoverUrl 0 .relativeWithoutBase, .failoverUrl 2 .invalidIpv6,
      .failoverUrl 3 .relativeWithoutBase, .broadcastMode, .delaysOutOfOrder,
      .fee .execute .noGas, .metricsAddress] := by decide +kernel

theorem brokenConfig_agrees (r : Rule) (other : r ≠ .failoverUrl 0) (url url' : String) :
    r.Agrees (brokenConfig url) (brokenConfig url') := by
  cases r with
  | failoverUrl i =>
    cases i with
    | zero => exact absurd rfl other
    | succ i => rfl
  | delays | metricsAddress => exact ⟨rfl, rfl⟩
  | _ => rfl

/-- The first of three bad URLs is mended. -/
theorem problems_ruleByRule_mended :
    (Rule.failoverUrl 0).Violated (brokenConfig "lcd") ∧
    ¬ (Rule.failoverUrl 0).Violated (brokenConfig "http://b") ∧
    (∀ r : Rule, r ≠ .failoverUrl 0 → r.Agrees (brokenConfig "lcd") (brokenConfig "http://b")) ∧
    (brokenConfig "lcd").problems.map text =
      ["ledger.failover_urls[0]: relative URL without a base",
        "ledger.failover_urls[2]: invalid IPv6 address",
        "ledger.failover_urls[3]: relative URL without a base",
        "ledger.broadcast_mode: must be one of [\"block\"]",
        "retries.base_delay_ms: must not exceed retries.max_delay_ms",
        "fees.execute: Invalid fee: gas limit must be positive",
        "observability.metrics_address: must be a socket address"] ∧
    (brokenConfig "http://b").problems = (brokenConfig "lcd").problems.tail := by
  have hbroken : (Rule.failoverUrl 0).Violated (brokenConfig "lcd") :=
    Config.violated_iff.mpr
      ⟨.failoverUrl 0 .relativeWithoutBase, by simp [brokenConfig_problems], rfl⟩
  have hkept : ¬ (Rule.failoverUrl 0).Violated (brokenConfig "http://b") :=
    Config.problemsOf_eq_nil_iff.mp (by decide +kernel)
  have hagrees := fun r other => brokenConfig_agrees r other "lcd" "http://b"
  refine ⟨hbroken, hkept, hagrees, by rw [brokenConfig_problems]; rfl, ?_⟩
  obtain ⟨before, p, after, hrule, hlisted, hmended⟩ :=
    (problems_ruleByRule (brokenConfig "lcd") (brokenConfig "http://b")).2.2 _ hbroken hkept hagrees
  cases before with
  | nil => rw [hlisted, hmended]; rfl
  | cons q before =>
    have hothers : ∀ p ∈ (brokenConfig "lcd").problems.tail, p.rule ≠ .failoverUrl 0 := by
      rw [brokenConfig_problems]
      decide
    exact absurd hrule (hothers p (by simp [hlisted]))

end Proofs

end TxDispatch
