import TxDispatch.Config.Schema
import TxDispatch.SocketAddress
import TxDispatch.Text.Blank
import TxDispatch.Url

namespace TxDispatch

open Text

inductive ConfigProblem where
  | gatewayUrl (e : UrlError)
  | failoverUrl (index : Nat) (e : UrlError)
  | blankChainId
  | noTimeout
  | broadcastMode
  | blankKeyVariable
  | noAttempts
  | delaysOutOfOrder
  | fee (kind : Operation.Kind) (e : FeeError)
  | logFormat
  | metricsAddress
deriving DecidableEq, Repr

namespace ConfigProblem

/-- Only blocks tell the events that values are taken from. -/
def broadcastModes : List String := ["block"]

def logFormats : List String := ["pretty", "json"]

def feeField : Operation.Kind → String
  | .storeCode => "fees.store_code"
  | .instantiate => "fees.instantiate"
  | .execute => "fees.execute"

def field : ConfigProblem → String
  | gatewayUrl _ => "ledger.lcd_url"
  | failoverUrl index _ => "ledger.failover_urls[" ++ Digits.text index ++ "]"
  | blankChainId => "ledger.chain_id"
  | noTimeout => "ledger.request_timeout_secs"
  | broadcastMode => "ledger.broadcast_mode"
  | blankKeyVariable => "signer.private_key_env"
  | noAttempts => "retries.max_attempts"
  | delaysOutOfOrder => "retries.base_delay_ms"
  | fee kind _ => feeField kind
  | logFormat => "observability.log_format"
  | metricsAddress => "observability.metrics_address"

def oneOf (texts : List String) : String :=
  "must be one of [" ++ ", ".intercalate (texts.map Quoted.quote) ++ "]"

def message : ConfigProblem → String
  | gatewayUrl e => e.message
  | failoverUrl _ e => e.message
  | blankChainId => "must not be empty"
  | noTimeout => "must be positive"
  | broadcastMode => oneOf broadcastModes
  | blankKeyVariable => "must not be empty"
  | noAttempts => "must be at least 1"
  | delaysOutOfOrder => "must not exceed retries.max_delay_ms"
  | fee _ e => e.failure.message
  | logFormat => oneOf logFormats
  | metricsAddress => "must be a socket address"

def text (p : ConfigProblem) : String := p.field ++ ": " ++ p.message

end ConfigProblem

namespace Config

open ConfigProblem

def when (found : Bool) (p : ConfigProblem) : List ConfigProblem := if found then [p] else []

def urlProblems (problem : UrlError → ConfigProblem) (url : String) : List ConfigProblem :=
  match Url.parse url with
  | .ok _ => []
  | .error e => [problem e]

def feeProblems (kind : Operation.Kind) (s : FeeSetting) : List ConfigProblem :=
  match s.toFee with
  | .ok _ => []
  | .error e => [.fee kind e]

def problems (c : Config) : List ConfigProblem :=
  urlProblems .gatewayUrl c.ledger.gatewayUrl ++
  (c.ledger.failoverUrls.zipIdx.flatMap fun u => urlProblems (.failoverUrl u.2) u.1) ++
  when (isBlank c.ledger.chainId) .blankChainId ++
  when (c.ledger.requestTimeout == 0) .noTimeout ++
  when (!broadcastModes.contains c.ledger.broadcastMode) .broadcastMode ++
  when (isBlank c.signer.privateKeyEnv) .blankKeyVariable ++
  when (c.retries.maxAttempts == 0) .noAttempts ++
  when (c.retries.maxDelay < c.retries.baseDelay) .delaysOutOfOrder ++
  feeProblems .storeCode c.fees.storeCode ++
  feeProblems .instantiate c.fees.instantiate ++
  feeProblems .execute c.fees.execute ++
  when (!logFormats.contains c.observability.logFormat) .logFormat ++
  when (c.observability.metricsEnabled &&
    (SocketAddress.parse? c.observability.metricsAddress).isNone) .metricsAddress

def isValid (c : Config) : Bool := c.problems.isEmpty

structure Sound (c : Config) : Prop where
  gateway : ∃ u, Url.parse c.ledger.gatewayUrl = .ok u
  failovers : ∀ url ∈ c.ledger.failoverUrls, ∃ u, Url.parse url = .ok u
  chainId : isBlank c.ledger.chainId = false
  timeout : c.ledger.requestTimeout ≠ 0
  broadcastMode : c.ledger.broadcastMode ∈ broadcastModes
  keyVariable : isBlank c.signer.privateKeyEnv = false
  attempts : c.retries.maxAttempts ≠ 0
  delays : c.retries.baseDelay ≤ c.retries.maxDelay
  fees : ∀ kind, ∃ fee, (c.fees.forKind kind).toFee = .ok fee
  logFormat : c.observability.logFormat ∈ logFormats
  metricsAddress : c.observability.metricsEnabled = true →
    (SocketAddress.parse? c.observability.metricsAddress).isSome = true

theorem when_eq_nil_iff {found : Bool} {p : ConfigProblem} : when found p = [] ↔ found = false := by
  cases found <;> simp [when]

theorem urlProblems_eq_nil_iff {problem : UrlError → ConfigProblem} {url : String} :
    urlProblems problem url = [] ↔ ∃ u, Url.parse url = .ok u := by
  unfold urlProblems
  cases Url.parse url <;> simp

theorem feeProblems_eq_nil_iff {kind : Operation.Kind} {s : FeeSetting} :
    feeProblems kind s = [] ↔ ∃ fee, s.toFee = .ok fee := by
  unfold feeProblems
  cases s.toFee <;> simp

theorem failoverProblems_eq_nil_iff {urls : List String} :
    (urls.zipIdx.flatMap fun u => urlProblems (.failoverUrl u.2) u.1) = [] ↔
      ∀ url ∈ urls, ∃ u, Url.parse url = .ok u := by
  simp only [List.flatMap_eq_nil_iff, urlProblems_eq_nil_iff]
  constructor
  · intro h url hurl
    obtain ⟨i, hi⟩ := List.mem_iff_getElem?.mp hurl
    exact h (url, i) (List.mk_mem_zipIdx_iff_getElem?.mpr hi)
  · intro h u hu
    exact h u.1 (List.fst_mem_of_mem_zipIdx hu)

theorem isValid_iff (c : Config) : c.isValid = true ↔ c.Sound := by
  simp only [isValid, problems, List.isEmpty_iff, List.append_eq_nil_iff, when_eq_nil_iff,
    urlProblems_eq_nil_iff, feeProblems_eq_nil_iff, failoverProblems_eq_nil_iff]
  constructor
  · rintro ⟨⟨⟨⟨⟨⟨⟨⟨⟨⟨⟨⟨gateway, failovers⟩, chainId⟩, timeout⟩, mode⟩, keyVariable⟩, attempts⟩,
      delays⟩, storeCode⟩, instantiate⟩, execute⟩, logFormat⟩, metrics⟩
    exact {
      gateway, failovers, chainId, keyVariable
      timeout := by simpa using timeout
      broadcastMode := by simpa using mode
      attempts := by simpa using attempts
      delays := by simpa using delays
      fees := Operation.Kind.forall_iff.mpr ⟨storeCode, instantiate, execute⟩
      logFormat := by simpa using logFormat
      metricsAddress := by
        intro enabled
        simpa [enabled, Option.isSome_iff_ne_none] using metrics }
  · intro h
    obtain ⟨storeCode, instantiate, execute⟩ := Operation.Kind.forall_iff.mp h.fees
    refine ⟨⟨⟨⟨⟨⟨⟨⟨⟨⟨⟨⟨h.gateway, h.failovers⟩, h.chainId⟩, ?_⟩, ?_⟩, h.keyVariable⟩, ?_⟩, ?_⟩,
      storeCode⟩, instantiate⟩, execute⟩, ?_⟩, ?_⟩
    · simpa using h.timeout
    · simpa using h.broadcastMode
    · simpa using h.attempts
    · simpa using h.delays
    · simpa using h.logFormat
    · cases enabled : c.observability.metricsEnabled with
      | false => rfl
      | true => simpa [Option.isSome_iff_ne_none] using h.metricsAddress enabled

end Config

end TxDispatch
