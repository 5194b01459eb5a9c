import TxDispatch.Backoff
import TxDispatch.Fee.Setting
import TxDispatch.Receipt

namespace TxDispatch

open Json (Tree)

structure LedgerConfig where
  gatewayUrl : String := "https://bombay-lcd.terra.dev"
  failoverUrls : List String := []
  chainId : String := "bombay-10"
  /-- The deadline of a request and of a broadcast, in seconds. -/
  requestTimeout : UInt64 := 60
  broadcastMode : String := "block"
  /-- Whether the gateway's chain is compared when a session connects. -/
  verifyChainId : Bool := true
deriving DecidableEq, Repr

structure SignerConfig where
  privateKeyEnv : String := "LEDGER_SIGNER_PRIVATE_KEY"
  accountAddress : Option String := none
  memo : String := ""
deriving DecidableEq, Repr

structure RetryConfig where
  maxAttempts : UInt32 := 5
  baseDelay : UInt64 := 250
  maxDelay : UInt64 := 4000
  conflictCodes : List ConflictCode := []
deriving DecidableEq, Repr

structure ObservabilityConfig where
  logLevel : String := "info"
  logFormat : String := "pretty"
  metricsEnabled : Bool := false
  metricsAddress : String := "127.0.0.1:9090"
deriving DecidableEq, Repr

structure Config where
  ledger : LedgerConfig := {}
  signer : SignerConfig := {}
  retries : RetryConfig := {}
  fees : FeeSettings := {}
  observability : ObservabilityConfig := {}
deriving DecidableEq, Repr

def RetryConfig.backoff (r : RetryConfig) : Backoff := .of r.maxAttempts r.baseDelay r.maxDelay

def LedgerConfig.ofTree? (surplus : Bool) (t : Tree) : Option LedgerConfig := do
  let d : LedgerConfig := {}
  match ← t.fields? surplus ["lcd_url", "failover_urls", "chain_id", "request_timeout_secs",
      "broadcast_mode", "verify_chain_id"] with
  | [gatewayUrl, failoverUrls, chainId, requestTimeout, broadcastMode, verifyChainId] =>
    return {
      gatewayUrl := ← Tree.defaulted? Tree.string? d.gatewayUrl gatewayUrl
      failoverUrls := ← Tree.defaulted? (Tree.list? Tree.string?) d.failoverUrls failoverUrls
      chainId := ← Tree.defaulted? Tree.string? d.chainId chainId
      requestTimeout := ← Tree.defaulted? Tree.word64? d.requestTimeout requestTimeout
      broadcastMode := ← Tree.defaulted? Tree.string? d.broadcastMode broadcastMode
      verifyChainId := ← Tree.defaulted? Tree.bool? d.verifyChainId verifyChainId }
  | _ => none

def SignerConfig.ofTree? (surplus : Bool) (t : Tree) : Option SignerConfig := do
  let d : SignerConfig := {}
  match ← t.fields? surplus ["private_key_env", "account_address", "memo"] with
  | [privateKeyEnv, accountAddress, memo] =>
    return {
      privateKeyEnv := ← Tree.defaulted? Tree.string? d.privateKeyEnv privateKeyEnv
      accountAddress := ← Tree.defaulted? (Tree.orNull? Tree.string?) none accountAddress
      memo := ← Tree.defaulted? Tree.string? d.memo memo }
  | _ => none

def RetryConfig.ofTree? (surplus : Bool) (t : Tree) : Option RetryConfig := do
  let d : RetryConfig := {}
  match ← t.fields? surplus ["max_attempts", "base_delay_ms", "max_delay_ms",
      "sequence_conflict_codes"] with
  | [maxAttempts, baseDelay, maxDelay, conflictCodes] =>
    return {
      maxAttempts := ← Tree.defaulted? Tree.word32? d.maxAttempts maxAttempts
      baseDelay := ← Tree.defaulted? Tree.word64? d.baseDelay baseDelay
      maxDelay := ← Tree.defaulted? Tree.word64? d.maxDelay maxDelay
      conflictCodes :=
        ← Tree.defaulted? (Tree.list? (ConflictCode.ofTree? surplus)) [] conflictCodes }
  | _ => none

def FeeSetting.ofTree? (surplus : Bool) (t : Tree) : Option FeeSetting := do
  match ← t.fields? surplus ["gas_limit", "amount"] with
  | [gasLimit, amount] =>
    return ⟨← Tree.required? Tree.word64? gasLimit, ← Tree.required? Tree.string? amount⟩
  | _ => none

def FeeSettings.ofTree? (surplus : Bool) (t : Tree) : Option FeeSettings := do
  let d : FeeSettings := {}
  let setting := Tree.defaulted? (FeeSetting.ofTree? surplus)
  match ← t.fields? surplus ["store_code", "instantiate", "execute"] with
  | [storeCode, instantiate, execute] =>
    return {
      storeCode := ← setting d.storeCode storeCode
      instantiate := ← setting d.instantiate instantiate
      execute := ← setting d.execute execute }
  | _ => none

def ObservabilityConfig.ofTree? (surplus : Bool) (t : Tree) : Option ObservabilityConfig := do
  let d : ObservabilityConfig := {}
  match ← t.fields? surplus ["log_level", "log_format", "metrics_enabled", "metrics_address"] with
  | [logLevel, logFormat, metricsEnabled, metricsAddress] =>
    return {
      logLevel := ← Tree.defaulted? Tree.string? d.logLevel logLevel
      logFormat := ← Tree.defaulted? Tree.string? d.logFormat logFormat
      metricsEnabled := ← Tree.defaulted? Tree.bool? d.metricsEnabled metricsEnabled
      metricsAddress := ← Tree.defaulted? Tree.string? d.metricsAddress metricsAddress }
  | _ => none

def Config.ofTree? (surplus : Bool) (t : Tree) : Option Config := do
  match ← t.fields? surplus ["ledger", "signer", "retries", "fees", "observability"] with
  | [ledger, signer, retries, fees, observability] =>
    return {
      ledger := ← Tree.defaulted? (LedgerConfig.ofTree? surplus) {} ledger
      signer := ← Tree.defaulted? (SignerConfig.ofTree? surplus) {} signer
      retries := ← Tree.defaulted? (RetryConfig.ofTree? surplus) {} retries
      fees := ← Tree.defaulted? (FeeSettings.ofTree? surplus) {} fees
      observability := ← Tree.defaulted? (ObservabilityConfig.ofTree? surplus) {} observability }
  | _ => none

/-- Reads a configuration from JSON, where a list of fields has to end with the last of them. -/
def Config.ofJsonText? (s : String) : Option Config := do ofTree? false (← Tree.ofText? s)

def LedgerConfig.toJson (c : LedgerConfig) : Json :=
  .obj [("broadcast_mode", .str c.broadcastMode), ("chain_id", .str c.chainId),
    ("failover_urls", .arr (c.failoverUrls.map .str)), ("lcd_url", .str c.gatewayUrl),
    ("request_timeout_secs", .nat c.requestTimeout.toNat),
    ("verify_chain_id", .bool c.verifyChainId)]

def SignerConfig.toJson (c : SignerConfig) : Json :=
  .obj [("account_address", match c.accountAddress with | none => .null | some a => .str a),
    ("memo", .str c.memo), ("private_key_env", .str c.privateKeyEnv)]

def RetryConfig.toJson (c : RetryConfig) : Json :=
  .obj [("base_delay_ms", .nat c.baseDelay.toNat), ("max_attempts", .nat c.maxAttempts.toNat),
    ("max_delay_ms", .nat c.maxDelay.toNat),
    ("sequence_conflict_codes", .arr (c.conflictCodes.map ConflictCode.toJson))]

def FeeSetting.toJson (s : FeeSetting) : Json :=
  .obj [("amount", .str s.amount), ("gas_limit", .nat s.gasLimit.toNat)]

def FeeSettings.toJson (s : FeeSettings) : Json :=
  .obj [("execute", s.execute.toJson), ("instantiate", s.instantiate.toJson),
    ("store_code", s.storeCode.toJson)]

def ObservabilityConfig.toJson (c : ObservabilityConfig) : Json :=
  .obj [("log_format", .str c.logFormat), ("log_level", .str c.logLevel),
    ("metrics_address", .str c.metricsAddress), ("metrics_enabled", .bool c.metricsEnabled)]

def Config.toJson (c : Config) : Json :=
  .obj [("fees", c.fees.toJson), ("ledger", c.ledger.toJson),
    ("observability", c.observability.toJson), ("retries", c.retries.toJson),
    ("signer", c.signer.toJson)]

end TxDispatch
