import TxDispatch.Config.Schema
import TxDispatch.Proofs.Sketches

namespace TxDispatch

open Json (Cut Sketch Step Tree)

def LedgerConfig.without (cut : Cut) (c : LedgerConfig) : LedgerConfig :=
  let d : LedgerConfig := {}
  { gatewayUrl := cut.keep "lcd_url" c.gatewayUrl d.gatewayUrl
    failoverUrls := cut.keep "failover_urls" c.failoverUrls d.failoverUrls
    chainId := cut.keep "chain_id" c.chainId d.chainId
    requestTimeout := cut.keep "request_timeout_secs" c.requestTimeout d.requestTimeout
    broadcastMode := cut.keep "broadcast_mode" c.broadcastMode d.broadcastMode
    verifyChainId := cut.keep "verify_chain_id" c.verifyChainId d.verifyChainId }

def SignerConfig.without (cut : Cut) (c : SignerConfig) : SignerConfig :=
  let d : SignerConfig := {}
  { privateKeyEnv := cut.keep "private_key_env" c.privateKeyEnv d.privateKeyEnv
    accountAddress := cut.keep "account_address" c.accountAddress d.accountAddress
    memo := cut.keep "memo" c.memo d.memo }

def RetryConfig.without (cut : Cut) (c : RetryConfig) : RetryConfig :=
  let d : RetryConfig := {}
  { maxAttempts := cut.keep "max_attempts" c.maxAttempts d.maxAttempts
    baseDelay := cut.keep "base_delay_ms" c.baseDelay d.baseDelay
    maxDelay := cut.keep "max_delay_ms" c.maxDelay d.maxDelay
    conflictCodes := cut.keep "sequence_conflict_codes" c.conflictCodes d.conflictCodes }

def FeeSettings.without (cut : Cut) (s : FeeSettings) : FeeSettings :=
  let d : FeeSettings := {}
  { storeCode := cut.keep "store_code" s.storeCode d.storeCode
    instantiate := cut.keep "instantiate" s.instantiate d.instantiate
    execute := cut.keep "execute" s.execute d.execute }

def ObservabilityConfig.without (cut : Cut) (c : ObservabilityConfig) : ObservabilityConfig :=
  let d : ObservabilityConfig := {}
  { logLevel := cut.keep "log_level" c.logLevel d.logLevel
    logFormat := cut.keep "log_format" c.logFormat d.logFormat
    metricsEnabled := cut.keep "metrics_enabled" c.metricsEnabled d.metricsEnabled
    metricsAddress := cut.keep "metrics_address" c.metricsAddress d.metricsAddress }

/-- The configuration with the defaults of what is left out, by sections and by fields. -/
def Config.without (cut : Cut) (c : Config) : Config where
  ledger := cut.keep "ledger" (c.ledger.without (cut.under (.member "ledger"))) {}
  signer := cut.keep "signer" (c.signer.without (cut.under (.member "signer"))) {}
  retries := cut.keep "retries" (c.retries.without (cut.under (.member "retries"))) {}
  fees := cut.keep "fees" (c.fees.without (cut.under (.member "fees"))) {}
  observability := cut.keep "observability"
    (c.observability.without (cut.under (.member "observability"))) {}

/-- The fee setting of the given name is still there but lacks one of its parts. -/
def FeeSetting.isTorn (cut : Cut) (kind : String) : Bool :=
  ["gas_limit", "amount"].any fun part => cut.severs [.member kind] part

def FeeSettings.isTorn (cut : Cut) : Bool :=
  ["store_code", "instantiate", "execute"].any fun kind => FeeSetting.isTorn cut kind

def ConflictCode.isTorn (cut : Cut) (i : Nat) : Bool :=
  ["codespace", "code"].any fun part =>
    cut.severs [.member "sequence_conflict_codes", .item i] part

def RetryConfig.isTorn (cut : Cut) (c : RetryConfig) : Bool :=
  (List.range c.conflictCodes.length).any fun i => ConflictCode.isTorn cut i

def Config.isTorn (cut : Cut) (c : Config) : Bool :=
  (!cut.drops "fees" && FeeSettings.isTorn (cut.under (.member "fees"))) ||
  (!cut.drops "retries" && c.retries.isTorn (cut.under (.member "retries")))

theorem Config.without_nothing (c : Config) : c.without .nothing = c := rfl

theorem Config.isTorn_nothing (c : Config) : c.isTorn .nothing = false := by
  simp [isTorn, FeeSettings.isTorn, FeeSetting.isTorn, RetryConfig.isTorn, ConflictCode.isTorn,
    Cut.severs, Cut.drops, Cut.under, Cut.nothing]

variable {cut : Cut} {t : Tree}

theorem LedgerConfig.ofTree?_sketch {c : LedgerConfig} (h : Sketch cut c.toJson t) :
    ofTree? false t = some (c.without cut) := by
  obtain ⟨f, hfields, found⟩ := h.fields? ["lcd_url", "failover_urls",
    "chain_id", "request_timeout_secs", "broadcast_mode", "verify_chain_id"] (by simp) (by simp)
  have hgatewayUrl := (found "lcd_url" (.str c.gatewayUrl) (by simp)).defaulted?
    fun _ h => h.string?
  have hfailoverUrls := (found "failover_urls" (.arr (c.failoverUrls.map .str))
    (by simp)).defaulted? fun _ h => h.list?_whole fun _ _ _ h => h.string?
  have hchainId := (found "chain_id" (.str c.chainId) (by simp)).defaulted? fun _ h => h.string?
  have hrequestTimeout := (found "request_timeout_secs" (.nat c.requestTimeout.toNat)
    (by simp)).defaulted? fun _ h => h.word64?
  have hbroadcastMode := (found "broadcast_mode" (.str c.broadcastMode) (by simp)).defaulted?
    fun _ h => h.string?
  have hverifyChainId := (found "verify_chain_id" (.bool c.verifyChainId) (by simp)).defaulted?
    fun _ h => h.bool?
  rw [ofTree?, hfields]
  simp only [List.map_cons, List.map_nil, Option.bind_eq_bind, Option.bind_some, hgatewayUrl,
    hfailoverUrls, hchainId, hrequestTimeout, hbroadcastMode, hverifyChainId]
  rfl

theorem SignerConfig.ofTree?_sketch {c : SignerConfig} (h : Sketch cut c.toJson t) :
    ofTree? false t = some (c.without cut) := by
  obtain ⟨f, hfields, found⟩ := h.fields? ["private_key_env", "account_address", "memo"]
    (by simp) (by simp)
  have hprivateKeyEnv := (found "private_key_env" (.str c.privateKeyEnv) (by simp)).defaulted?
    fun _ h => h.string?
  have haccountAddress := (found "account_address" ((c.accountAddress.map .str).getD .null)
    (by cases c.accountAddress <;> simp)).defaulted?
    fun _ h => h.orNull? fun _ _ h => ⟨h.string?, by simp [h.tree_eq rfl, Json.tree]⟩
  have hmemo := (found "memo" (.str c.memo) (by simp)).defaulted? fun _ h => h.string?
  rw [ofTree?, hfields]
  simp only [List.map_cons, List.map_nil, Option.bind_eq_bind, Option.bind_some, hprivateKeyEnv,
    haccountAddress, hmemo]
  rfl

/-- A conflict code is read only if both of its parts are there. -/
theorem ConflictCode.ofTree?_sketch {c : ConflictCode} (h : Sketch cut c.toJson t) :
    ofTree? false t = if ["codespace", "code"].any cut.drops then none else some c := by
  obtain ⟨f, hfields, found⟩ := h.fields? ["codespace", "code"] (by simp) (by simp)
  have hcodespace := (found "codespace" (.str c.codespace) (by simp)).required?
    fun _ h => h.string?
  have hcode := (found "code" (.nat c.code.toNat) (by simp)).required? fun _ h => h.word32?
  rw [ofTree?, hfields]
  simp only [List.map_cons, List.map_nil, Option.bind_eq_bind, Option.bind_some, hcodespace, hcode]
  cases hspace : cut.drops "codespace" <;> cases hnumber : cut.drops "code" <;>
    simp [hspace, hnumber]

/-- A fee setting is read only if both of its parts are there. -/
theorem FeeSetting.ofTree?_sketch {s : FeeSetting} (h : Sketch cut s.toJson t) :
    ofTree? false t = if ["gas_limit", "amount"].any cut.drops then none else some s := by
  obtain ⟨f, hfields, found⟩ := h.fields? ["gas_limit", "amount"] (by simp) (by simp)
  have hgasLimit := (found "gas_limit" (.nat s.gasLimit.toNat) (by simp)).required?
    fun _ h => h.word64?
  have hamount := (found "amount" (.str s.amount) (by simp)).required? fun _ h => h.string?
  rw [ofTree?, hfields]
  simp only [List.map_cons, List.map_nil, Option.bind_eq_bind, Option.bind_some, hgasLimit, hamount]
  cases hgas : cut.drops "gas_limit" <;> cases hcoins : cut.drops "amount" <;>
    simp [hgas, hcoins]

theorem RetryConfig.ofTree?_sketch {c : RetryConfig} (h : Sketch cut c.toJson t) :
    ofTree? false t = if c.isTorn cut then none else some (c.without cut) := by
  obtain ⟨f, hfields, found⟩ := h.fields? ["max_attempts", "base_delay_ms",
    "max_delay_ms", "sequence_conflict_codes"] (by simp) (by simp)
  have hmaxAttempts := (found "max_attempts" (.nat c.maxAttempts.toNat) (by simp)).defaulted?
    fun _ h => h.word32?
  have hbaseDelay := (found "base_delay_ms" (.nat c.baseDelay.toNat) (by simp)).defaulted?
    fun _ h => h.word64?
  have hmaxDelay := (found "max_delay_ms" (.nat c.maxDelay.toNat) (by simp)).defaulted?
    fun _ h => h.word64?
  have hconflictCodes := (found "sequence_conflict_codes"
    (.arr (c.conflictCodes.map ConflictCode.toJson)) (by simp)).defaulted?_torn
    fun _ h => h.list? fun _ _ _ h => ConflictCode.ofTree?_sketch h
  have htorn : (!cut.drops "sequence_conflict_codes" && (List.range c.conflictCodes.length).any
      fun i => ["codespace", "code"].any
        ((cut.under (.member "sequence_conflict_codes")).under (.item i)).drops) =
      c.isTorn cut := by
    cases hdrops : cut.drops "sequence_conflict_codes" <;>
      simp [isTorn, ConflictCode.isTorn, Cut.severs, hdrops]
  rw [ofTree?, hfields]
  simp only [List.map_cons, List.map_nil, Option.bind_eq_bind, Option.bind_some, hmaxAttempts,
    hbaseDelay, hmaxDelay, hconflictCodes, htorn]
  cases c.isTorn cut <;> rfl

theorem FeeSettings.ofTree?_sketch {s : FeeSettings} (h : Sketch cut s.toJson t) :
    ofTree? false t = if isTorn cut then none else some (s.without cut) := by
  obtain ⟨f, hfields, found⟩ := h.fields? ["store_code", "instantiate", "execute"]
    (by simp) (by simp)
  have hstoreCode := (found "store_code" s.storeCode.toJson (by simp)).defaulted?_torn
    fun _ h => FeeSetting.ofTree?_sketch h
  have hinstantiate := (found "instantiate" s.instantiate.toJson (by simp)).defaulted?_torn
    fun _ h => FeeSetting.ofTree?_sketch h
  have hexecute := (found "execute" s.execute.toJson (by simp)).defaulted?_torn
    fun _ h => FeeSetting.ofTree?_sketch h
  have htorn : ∀ kind, (!cut.drops kind && ["gas_limit", "amount"].any
      (cut.under (.member kind)).drops) = FeeSetting.isTorn cut kind := by
    intro kind
    cases hdrops : cut.drops kind <;> simp [FeeSetting.isTorn, Cut.severs, hdrops]
  rw [ofTree?, hfields]
  simp only [List.map_cons, List.map_nil, Option.bind_eq_bind, Option.bind_some, hstoreCode,
    hinstantiate, hexecute, htorn]
  simp only [isTorn, List.any_cons, List.any_nil, Bool.or_false]
  cases FeeSetting.isTorn cut "store_code" <;> cases FeeSetting.isTorn cut "instantiate" <;>
    cases FeeSetting.isTorn cut "execute" <;> rfl

theorem ObservabilityConfig.ofTree?_sketch {c : ObservabilityConfig} (h : Sketch cut c.toJson t) :
    ofTree? false t = some (c.without cut) := by
  obtain ⟨f, hfields, found⟩ := h.fields? ["log_level", "log_format",
    "metrics_enabled", "metrics_address"] (by simp) (by simp)
  have hlogLevel := (found "log_level" (.str c.logLevel) (by simp)).defaulted?
    fun _ h => h.string?
  have hlogFormat := (found "log_format" (.str c.logFormat) (by simp)).defaulted?
    fun _ h => h.string?
  have hmetricsEnabled := (found "metrics_enabled" (.bool c.metricsEnabled) (by simp)).defaulted?
    fun _ h => h.bool?
  have hmetricsAddress := (found "metrics_address" (.str c.metricsAddress) (by simp)).defaulted?
    fun _ h => h.string?
  rw [ofTree?, hfields]
  simp only [List.map_cons, List.map_nil, Option.bind_eq_bind, Option.bind_some, hlogLevel,
    hlogFormat, hmetricsEnabled, hmetricsAddress]
  rfl

/-- A sketch of a configuration is read as the configuration without what is left out, unless it
holds a torn fee setting or conflict code. -/
theorem Config.ofTree?_sketch {c : Config} (h : Sketch cut c.toJson t) :
    ofTree? false t = if c.isTorn cut then none else some (c.without cut) := by
  obtain ⟨f, hfields, found⟩ := h.fields? ["ledger", "signer", "retries",
    "fees", "observability"] (by simp) (by simp)
  have hledger := (found "ledger" c.ledger.toJson (by simp)).defaulted?
    fun _ h => LedgerConfig.ofTree?_sketch h
  have hsigner := (found "signer" c.signer.toJson (by simp)).defaulted?
    fun _ h => SignerConfig.ofTree?_sketch h
  have hretries := (found "retries" c.retries.toJson (by simp)).defaulted?_torn
    fun _ h => RetryConfig.ofTree?_sketch h
  have hfees := (found "fees" c.fees.toJson (by simp)).defaulted?_torn
    fun _ h => FeeSettings.ofTree?_sketch h
  have hobservability := (found "observability" c.observability.toJson (by simp)).defaulted?
    fun _ h => ObservabilityConfig.ofTree?_sketch h
  rw [ofTree?, hfields, isTorn]
  simp only [List.map_cons, List.map_nil, Option.bind_eq_bind, Option.bind_some, hledger, hsigner,
    hretries, hfees, hobservability]
  cases !cut.drops "retries" && c.retries.isTorn (cut.under (.member "retries")) <;>
    cases !cut.drops "fees" && FeeSettings.isTorn (cut.under (.member "fees")) <;> rfl

open Json.Grammar (Document)

theorem Json.document_text (v : Json) : Document v.tree v.text.toList :=
  Json.Grammar.tree?_eq_some_iff.mp (Json.ofText?_text v)

namespace Proofs

/-- A configuration is read back from its text. From every text that leaves some of its sections and
fields out, whatever else stands there and in whatever order, the others are read as they are and
those that are left out as their defaults. A fee setting or a conflict code of which only a part is
there is not filled up: nothing is read. -/
theorem config_codec (c : Config) :
    Config.ofJsonText? c.toJson.text = some c ∧
    ∀ (cut : Cut) (t : Tree) (s : String), Sketch cut c.toJson t → Document t s.toList →
      Config.ofJsonText? s = if c.isTorn cut then none else some (c.without cut) := by
  have hread : ∀ (cut : Cut) (t : Tree) (s : String), Sketch cut c.toJson t →
      Document t s.toList →
      Config.ofJsonText? s = if c.isTorn cut then none else some (c.without cut) := by
    intro cut t s sketch document
    rw [Config.ofJsonText?, Tree.ofText?, Json.Grammar.tree?_eq_some_iff.mpr document]
    exact Config.ofTree?_sketch sketch
  refine ⟨?_, hread⟩
  rw [hread .nothing _ _ (.whole c.toJson) c.toJson.document_text, c.isTorn_nothing,
    c.without_nothing]
  rfl

def leavingOut (names : List String) : Cut := fun _ name => names.contains name

def sampleConfig : Config where
  signer := { memo := "m" }
  retries := { maxAttempts := 8, conflictCodes := [⟨"sdk", 32⟩] }
  fees := { storeCode := ⟨1, "1uusd"⟩, execute := ⟨7, "3uusd"⟩ }

def sparseNames : List String := ["ledger", "signer", "observability", "max_attempts",
  "base_delay_ms", "max_delay_ms", "store_code", "instantiate"]

def sparseJson : Json :=
  .obj [("new", .arr [.null]),
    ("retries", .obj [("sequence_conflict_codes",
      .arr [.obj [("fees", .null), ("codespace", .str "sdk"), ("code", .nat 32)]])]),
    ("fees", .obj [("execute", .obj [("amount", .str "3uusd"), ("gas_limit", .nat 7)])])]

def tornNames : List String := "amount" :: "retries" :: sparseNames

def tornJson : Json := .obj [("fees", .obj [("execute", .obj [("gas_limit", .nat 7)])])]

theorem sparse_sketch : Sketch (leavingOut sparseNames) sampleConfig.toJson sparseJson.tree := by
  have hcode : Sketch (leavingOut sparseNames) (ConflictCode.toJson ⟨"sdk", 32⟩) (.obj
      [(some "fees", .null), (some "codespace", .str (some "sdk")),
        (some "code", (Json.nat 32).tree)]) :=
    .obj [(some "fees", .null)] (.kept rfl (.plain rfl) (.kept rfl (.plain rfl) .nil)) (by simp)
      (List.reverse_perm [_, _, _])
  have hcodes : Sketch (leavingOut sparseNames) sampleConfig.retries.toJson
      (.obj [(some "sequence_conflict_codes", .arr [_])]) :=
    .obj [] (.dropped rfl (.dropped rfl (.dropped rfl (.kept rfl (.arr (.cons hcode .nil)) .nil))))
      (by simp) (.refl _)
  have hfees : Sketch (leavingOut sparseNames) sampleConfig.fees.toJson
      (.obj [(some "execute", .obj [(some "amount", .str (some "3uusd")),
        (some "gas_limit", (Json.nat 7).tree)])]) :=
    .obj [] (.kept rfl (.obj [] (.kept rfl (.plain rfl) (.kept rfl (.plain rfl) .nil)) (by simp)
      (.refl _)) (.dropped rfl (.dropped rfl .nil))) (by simp) (.refl _)
  exact .obj [(some "new", .arr [.null])] (.kept rfl hfees (.dropped rfl (.dropped rfl
    (.kept rfl hcodes (.dropped rfl .nil))))) (by simp) (List.reverse_perm [_, _, _])

theorem torn_sketch : Sketch (leavingOut tornNames) sampleConfig.toJson tornJson.tree := by
  have hfees : Sketch (leavingOut tornNames) sampleConfig.fees.toJson
      (.obj [(some "execute", .obj [(some "gas_limit", (Json.nat 7).tree)])]) :=
    .obj [] (.kept rfl (.obj [] (.dropped rfl (.kept rfl (.plain rfl) .nil)) (by simp) (.refl _))
      (.dropped rfl (.dropped rfl .nil))) (by simp) (.refl _)
  exact .obj [] (.kept rfl hfees (.dropped rfl (.dropped rfl (.dropped rfl (.dropped rfl .nil)))))
    (by simp) (.refl _)

/-- Of a configuration one conflict code and one fee setting are written, and in another text half
of the fee setting alone. -/
theorem config_codec_sparse :
    Config.ofJsonText? sampleConfig.toJson.text = some sampleConfig ∧
    Sketch (leavingOut sparseNames) sampleConfig.toJson sparseJson.tree ∧
    Document sparseJson.tree sparseJson.text.toList ∧
    Config.ofJsonText? sparseJson.text = some
      { retries := { conflictCodes := [⟨"sdk", 32⟩] }, fees := { execute := ⟨7, "3uusd"⟩ } } ∧
    Sketch (leavingOut tornNames) sampleConfig.toJson tornJson.tree ∧
    Document tornJson.tree tornJson.text.toList ∧ Config.ofJsonText? tornJson.text = none := by
  obtain ⟨hback, hread⟩ := config_codec sampleConfig
  refine ⟨hback, sparse_sketch, sparseJson.document_text, ?_, torn_sketch,
    tornJson.document_text, ?_⟩
  · rw [hread _ _ _ sparse_sketch sparseJson.document_text]
    decide
  · rw [hread _ _ _ torn_sketch tornJson.document_text]
    decide

end Proofs

end TxDispatch
