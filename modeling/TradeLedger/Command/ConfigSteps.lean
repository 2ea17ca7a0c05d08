import TradeLedger.Settings.Load
import TradeLedger.Command.Steps
/-!
# The settings command

Load the settings from a given environment, with a tuning file when the request gives one. The
answer is the settings with every tuning duration in milliseconds, the file's path and the text
of a YAML problem masked.

## Main definitions

* `config`: the command's answer.
-/

namespace TradeLedger

/-- A duration in whole milliseconds, truncated toward zero. -/
def msJson (d : Duration) : Json := Json.ofInt (Duration.toMs d)

/-- The JSON form of a tuning, durations in milliseconds. -/
def Tuning.toJson (t : Tuning) : Json :=
  let s := t.stream
  let k := t.listenKey
  let y := t.sync
  let c := t.cooldown
  let r := t.reconciliation
  .obj [
    ("stream", .obj [("ping_interval_ms", msJson s.pingInterval),
      ("pong_timeout_ms", msJson s.pongTimeout),
      ("max_consecutive_errors", Json.ofInt s.maxConsecutiveErrors),
      ("max_messages_per_second", Json.ofInt s.maxMessagesPerSecond),
      ("backoff_initial_ms", msJson s.backoffInitial), ("backoff_max_ms", msJson s.backoffMax),
      ("backoff_multiplier", Json.ofFloat s.backoffMultiplier),
      ("handshake_timeout_ms", msJson s.handshakeTimeout)]),
    ("listen_key", .obj [("ttl_ms", msJson k.ttl), ("refresh_before_ms", msJson k.refreshBefore),
      ("max_acquire_failures", Json.ofInt k.maxAcquireFailures),
      ("request_timeout_ms", msJson k.requestTimeout)]),
    ("sync", .obj [("fallback_window_ms", msJson y.fallbackWindow),
      ("fallback_limit", Json.ofInt y.fallbackLimit),
      ("mark_price_min_interval_ms", msJson y.markPriceMinInterval),
      ("mark_price_max_age_ms", msJson y.markPriceMaxAge)]),
    ("position", .obj [("cache_ttl_ms", msJson t.position.cacheTtl)]),
    ("cooldown", .obj [("symbol_ms", msJson c.symbol), ("trader_ms", msJson c.trader),
      ("post_merge_ms", msJson c.postMerge), ("cleanup_interval_ms", msJson c.cleanupInterval)]),
    ("reconciliation", .obj [("lookback_ms", msJson r.lookback),
      ("window_padding_ms", msJson r.windowPadding),
      ("open_tolerance_ms", msJson r.openTolerance),
      ("close_tolerance_ms", msJson r.closeTolerance),
      ("relaxed_open_tolerance_ms", msJson r.relaxedOpenTolerance),
      ("relaxed_close_tolerance_ms", msJson r.relaxedCloseTolerance),
      ("materiality_threshold", Json.ofFloat r.materialityThreshold),
      ("requests_per_second", Json.ofFloat r.requestsPerSecond),
      ("interval_ms", msJson r.interval)]),
    ("notify", .obj [("queue_size", Json.ofInt t.notify.queueSize),
      ("workers", Json.ofInt t.notify.workers)])]

def Settings.toJson (s : Settings) : Json :=
  .obj [("port", .str s.port), ("log_level", .str s.logLevel), ("log_mode", .str s.logMode),
    ("binance_testnet", .bool s.binanceTestnet), ("binance_api_key", .str s.binanceApiKey),
    ("binance_api_secret", .str s.binanceApiSecret), ("trader_id", .str s.traderId),
    ("market_symbols", Json.ofStrings s.marketSymbols), ("db_path", .str s.dbPath),
    ("jwt_secret", .str s.jwtSecret), ("redis_addr", .str s.redisAddr),
    ("redis_password", .str s.redisPassword), ("redis_db", Json.ofInt s.redisDb),
    ("notify_channel", .str s.notifyChannel),
    ("conflict_failure_policy", .str s.conflictFailurePolicy),
    ("exit_on_stream_fatal", .bool s.exitOnStreamFatal), ("tuning", s.tuning.toJson)]

namespace Command

/-- Where a request's tuning file is written. -/
def tuningPath : String := "<tuning>"

/-- The environment and files of a request: its variables, and its tuning file when it gives
one, written at `path` and named by `LEDGER_SYNC_CONFIG`. -/
def requestEnvironment (j : Json) (path : String := tuningPath) :
    Input (Environment × (String → Option String)) := do
  let vars ← (← Input.members j "env").mapM fun (k, v) =>
    match v with
    | .str s => pure (k, s)
    | other => pure (k, other.render)
  match Input.arg? j "tuning_yaml" with
  | some _ =>
    let yaml ← Input.text j "tuning_yaml"
    let env := (vars.filter (·.1 != "LEDGER_SYNC_CONFIG")) ++ [("LEDGER_SYNC_CONFIG", path)]
    pure (env, fun p => if p == path then some yaml else none)
  | none => pure (vars, fun _ => none)

/-- The marker that stands for the text of a YAML problem. -/
def yamlMarker : String := "<yaml>"

/-- The message of a failed load, with the text of a YAML problem masked. -/
def maskedText : SettingsError → String
  | .malformed path _ => "parse tuning file " ++ path ++ ": " ++ yamlMarker
  | e => e.text

/-- `config`: the settings loaded from the request's environment. -/
def config (j : Json) : Input Json := do
  let (env, files) ← requestEnvironment j
  match Settings.load env files with
  | .ok s => pure s.toJson
  | .error e => pure (errorAnswer "error" (maskedText e))

end Command

end TradeLedger
