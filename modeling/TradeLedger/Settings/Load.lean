import TradeLedger.Settings.Tuning
import TradeLedger.Text.Blank
import TradeLedger.Text.Fold
import TradeLedger.Text.Case
/-!
# Loading the settings

The service is configured from its environment. Each setting has a variable and a default used
when the variable is unset or empty; a numeric variable that does not read keeps the default.
The tuning starts from the production defaults, overlaid by the file `LEDGER_SYNC_CONFIG` names,
then by single variables. The conflict failure policy must be `open` or `closed`.

## Main definitions

* `Settings`, `Settings.load`: the settings, or why they do not load.
-/

namespace TradeLedger

/-- The environment's variables and their values. -/
abbrev Environment := List (String × String)

namespace Environment

/-- The value of a variable, empty when unset. -/
def get (env : Environment) (key : String) : String := (env.lookup key).getD ""

/-- The value of a variable, or `default` when it is unset or empty. -/
def getOr (env : Environment) (key default : String) : String :=
  let v := env.get key
  if v.isEmpty then default else v

/-- A decimal integer variable, or `default` when it is unset or does not read. -/
def getInt (env : Environment) (key : String) (default : Int) : Int :=
  match readInt64Text (env.get key) with
  | .ok i => if (env.get key).isEmpty then default else i
  | .error _ => default

/-- A float variable, or `default` when it is unset or does not read. -/
def getFloat (env : Environment) (key : String) (default : Float) : Float :=
  let v := env.get key
  if v.isEmpty then default
  else
    match readFloatText v with
    | .ok x => x
    | .error _ => default

/-- A duration variable, or `default` when it is unset or does not read. -/
def getDuration (env : Environment) (key : String) (default : Duration) : Duration :=
  let v := env.get key
  if v.isEmpty then default
  else
    match Duration.parse v with
    | .ok d => d
    | .error _ => default

end Environment

/-- The market symbols of a comma-separated list: trimmed, upper-cased, empty ones dropped. -/
def splitSymbols (s : String) : List String :=
  ((s.splitOn ",").map String.trimBlank).filterMap fun t =>
    if t.isEmpty then none else some (String.toUpperSimple t)

/-- Why settings could not be loaded: the tuning file cannot be read, or is not a valid tuning
file, or the conflict failure policy is neither `open` nor `closed`. -/
inductive SettingsError where
  | unreadable (path : String)
  | malformed (path : String) (problem : YamlProblem)
  | policy (value : String)
  deriving Repr, Inhabited

/-- The message of a failed load. -/
def SettingsError.text : SettingsError → String
  | .unreadable path => "read tuning file: open " ++ path ++ ": no such file or directory"
  | .malformed path problem => "parse tuning file " ++ path ++ ": " ++ problem.text
  | .policy value => "CONFLICT_FAILURE_POLICY must be open or closed, got " ++ quoteText value

/-- The service's settings. -/
structure Settings where
  port : String
  logLevel : String
  logMode : String
  binanceTestnet : Bool
  binanceApiKey : String
  binanceApiSecret : String
  traderId : String
  marketSymbols : List String
  dbPath : String
  jwtSecret : String
  redisAddr : String
  redisPassword : String
  redisDb : Int
  notifyChannel : String
  conflictFailurePolicy : String
  exitOnStreamFatal : Bool
  tuning : Tuning
  deriving Repr, Inhabited

namespace Settings

/-- The settings from the environment alone, with the default tuning. -/
def fromEnvironment (env : Environment) : Settings where
  port := env.getOr "PORT" "8080"
  logLevel := env.getOr "LOG_LEVEL" "info"
  logMode := env.getOr "LOG_MODE" "console"
  binanceTestnet := env.getOr "BINANCE_TESTNET" "false" == "true"
  binanceApiKey := env.get "BINANCE_API_KEY"
  binanceApiSecret := env.get "BINANCE_API_SECRET"
  traderId := env.getOr "TRADER_ID" "default"
  marketSymbols := splitSymbols (env.getOr "MARKET_SYMBOLS" "BTCUSDT,ETHUSDT")
  dbPath := env.getOr "DB_PATH" "./data/ledger.db"
  jwtSecret := env.getOr "JWT_SECRET" "dev-secret"
  redisAddr := env.get "REDIS_ADDR"
  redisPassword := env.get "REDIS_PASSWORD"
  redisDb := env.getInt "REDIS_DB" 0
  notifyChannel := env.getOr "NOTIFY_CHANNEL" "ledger-sync:notifications"
  conflictFailurePolicy := (env.getOr "CONFLICT_FAILURE_POLICY" "open").map Char.toLowerSimple
  exitOnStreamFatal := env.getOr "EXIT_ON_STREAM_FATAL" "true" == "true"
  tuning := {}

def overlayFile (t : Tuning) (files : String → Option String) (path : String) :
    Except SettingsError Tuning :=
  match files path with
  | none => .error (.unreadable path)
  | some text =>
    match t.overlay text with
    | .ok t => .ok t
    | .error problem => .error (.malformed path problem)

/-- The variables that override single tuning values. -/
def overrides (env : Environment) (t : Tuning) : Tuning :=
  let r := t.reconciliation
  let r := { r with
    materialityThreshold := env.getFloat "RECONCILE_MATERIALITY" r.materialityThreshold
    lookback := env.getDuration "RECONCILE_LOOKBACK" r.lookback
    interval := env.getDuration "RECONCILE_INTERVAL" r.interval }
  let s := { t.stream with
    maxConsecutiveErrors := env.getInt "STREAM_MAX_CONSECUTIVE_ERRORS" t.stream.maxConsecutiveErrors }
  let p := { t.position with cacheTtl := env.getDuration "POSITION_CACHE_TTL" t.position.cacheTtl }
  { t with reconciliation := r, stream := s, position := p }

/-- The variables the settings are read from. -/
def variableNames : List String :=
  ["PORT", "LOG_LEVEL", "LOG_MODE", "BINANCE_TESTNET", "BINANCE_API_KEY", "BINANCE_API_SECRET",
    "TRADER_ID", "MARKET_SYMBOLS", "DB_PATH", "JWT_SECRET", "REDIS_ADDR", "REDIS_PASSWORD",
    "REDIS_DB", "NOTIFY_CHANNEL", "CONFLICT_FAILURE_POLICY", "EXIT_ON_STREAM_FATAL",
    "LEDGER_SYNC_CONFIG", "RECONCILE_MATERIALITY", "RECONCILE_LOOKBACK", "RECONCILE_INTERVAL",
    "STREAM_MAX_CONSECUTIVE_ERRORS", "POSITION_CACHE_TTL"]

/-- Load the settings: the environment, the tuning file if one is named, the overriding
variables, and the check of the failure policy. -/
def load (env : Environment) (files : String → Option String) : Except SettingsError Settings := do
  let base := fromEnvironment env
  let path := env.get "LEDGER_SYNC_CONFIG"
  let tuning ← if path.isEmpty then pure base.tuning else overlayFile base.tuning files path
  let settings := { base with tuning := overrides env tuning }
  if settings.conflictFailurePolicy != "open" && settings.conflictFailurePolicy != "closed" then
    throw (.policy settings.conflictFailurePolicy)
  pure settings

end Settings

end TradeLedger
