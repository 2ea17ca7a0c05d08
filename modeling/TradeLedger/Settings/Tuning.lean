import TradeLedger.Yaml.Decode
import TradeLedger.Time.DurationRead
/-!
# Tuning

The thresholds and timings of the service, grouped by the part they tune, each with a production
default that a tuning file may overlay. Unknown keys are ignored and a null keeps a value; a
value of the wrong kind, a section that is no mapping, or a repeated key is refused, with its
line and type.

## Main definitions

* `Tuning`: all the tuning.
-/

namespace TradeLedger

/-- Timings of the venue's streams. -/
structure StreamTuning where
  pingInterval : Duration := 30 * Duration.perSecond
  pongTimeout : Duration := 60 * Duration.perSecond
  maxConsecutiveErrors : Int := 10
  maxMessagesPerSecond : Int := 50
  backoffInitial : Duration := Duration.perSecond
  backoffMax : Duration := 60 * Duration.perSecond
  backoffMultiplier : Float := 2
  handshakeTimeout : Duration := 10 * Duration.perSecond
  deriving Repr, Inhabited

/-- Timings of the listen key of the private stream. -/
structure ListenKeyTuning where
  ttl : Duration := 3600 * Duration.perSecond
  refreshBefore : Duration := 300 * Duration.perSecond
  maxAcquireFailures : Int := 3
  requestTimeout : Duration := 10 * Duration.perSecond
  deriving Repr, Inhabited

structure SyncTuning where
  fallbackWindow : Duration := 24 * 3600 * Duration.perSecond
  fallbackLimit : Int := 200
  markPriceMinInterval : Duration := Duration.perSecond
  markPriceMaxAge : Duration := 600 * Duration.perSecond
  deriving Repr, Inhabited

structure PositionTuning where
  cacheTtl : Duration := 5 * Duration.perSecond
  deriving Repr, Inhabited

/-- Lengths of the cooldowns and how often ended ones are swept. -/
structure CooldownTuning where
  symbol : Duration := 30 * Duration.perSecond
  trader : Duration := 60 * Duration.perSecond
  postMerge : Duration := 300 * Duration.perSecond
  cleanupInterval : Duration := 60 * Duration.perSecond
  deriving Repr, Inhabited

structure ReconciliationTuning where
  lookback : Duration := 72 * 3600 * Duration.perSecond
  windowPadding : Duration := 1800 * Duration.perSecond
  openTolerance : Duration := 120 * Duration.perSecond
  closeTolerance : Duration := 900 * Duration.perSecond
  relaxedOpenTolerance : Duration := 600 * Duration.perSecond
  relaxedCloseTolerance : Duration := 3600 * Duration.perSecond
  materialityThreshold : Float := 0.01
  requestsPerSecond : Float := 5
  /-- zero runs no periodic reconciliation -/
  interval : Duration := 0
  deriving Repr, Inhabited

/-- Size of the notifier. -/
structure NotifyTuning where
  queueSize : Int := 256
  workers : Int := 2
  deriving Repr, Inhabited

/-- All tuning sections. -/
structure Tuning where
  stream : StreamTuning := {}
  listenKey : ListenKeyTuning := {}
  sync : SyncTuning := {}
  position : PositionTuning := {}
  cooldown : CooldownTuning := {}
  reconciliation : ReconciliationTuning := {}
  notify : NotifyTuning := {}
  deriving Repr, Inhabited

/-- The largest integer of the 64-bit range. -/
def int64Max : Int := Int.pow 2 63 - 1

/-- A duration field: a text read as a duration. -/
def durationField {σ : Type} (set : σ → Duration → σ) : Decoder σ :=
  Decoder.leaf "time.Duration" fun
    | .text t => (Duration.parse t).toOption.map fun d s => set s d
    | _ => none

/-- A count field: an integer within the 64-bit range, or a float up to the range's top cut
toward zero. -/
def countField {σ : Type} (set : σ → Int → σ) : Decoder σ :=
  Decoder.leaf "int" fun
    | .int i => if i ≤ int64Max then some fun s => set s i else none
    | .float x =>
      if x ≤ 9223372036854775807.0 then some fun s => set s (truncateToInt64 x) else none
    | _ => none

/-- A ratio field: an integer or a float. -/
def ratioField {σ : Type} (set : σ → Float → σ) : Decoder σ :=
  Decoder.leaf "float64" fun
    | .int i => some fun s => set s (Float.ofInt i)
    | .float x => some fun s => set s x
    | _ => none

namespace Tuning

/-- The fields of the stream section. -/
def streamRecord : YamlRecord StreamTuning where
  typeName := "config.StreamTuning"
  fields := [("ping_interval", durationField fun s d => { s with pingInterval := d }),
    ("pong_timeout", durationField fun s d => { s with pongTimeout := d }),
    ("max_consecutive_errors", countField fun s n => { s with maxConsecutiveErrors := n }),
    ("max_messages_per_second", countField fun s n => { s with maxMessagesPerSecond := n }),
    ("backoff_initial", durationField fun s d => { s with backoffInitial := d }),
    ("backoff_max", durationField fun s d => { s with backoffMax := d }),
    ("backoff_multiplier", ratioField fun s x => { s with backoffMultiplier := x }),
    ("handshake_timeout", durationField fun s d => { s with handshakeTimeout := d })]

def listenKeyRecord : YamlRecord ListenKeyTuning where
  typeName := "config.ListenKeyTuning"
  fields := [("ttl", durationField fun s d => { s with ttl := d }),
    ("refresh_before", durationField fun s d => { s with refreshBefore := d }),
    ("max_acquire_failures", countField fun s n => { s with maxAcquireFailures := n }),
    ("request_timeout", durationField fun s d => { s with requestTimeout := d })]

/-- The fields of the sync section. -/
def syncRecord : YamlRecord SyncTuning where
  typeName := "config.SyncTuning"
  fields := [("fallback_window", durationField fun s d => { s with fallbackWindow := d }),
    ("fallback_limit", countField fun s n => { s with fallbackLimit := n }),
    ("mark_price_min_interval", durationField fun s d => { s with markPriceMinInterval := d }),
    ("mark_price_max_age", durationField fun s d => { s with markPriceMaxAge := d })]

/-- The fields of the position section. -/
def positionRecord : YamlRecord PositionTuning where
  typeName := "config.PositionTuning"
  fields := [("cache_ttl", durationField fun s d => { s with cacheTtl := d })]

/-- The fields of the cooldown section. -/
def cooldownRecord : YamlRecord CooldownTuning where
  typeName := "config.CooldownTuning"
  fields := [("symbol", durationField fun s d => { s with symbol := d }),
    ("trader", durationField fun s d => { s with trader := d }),
    ("post_merge", durationField fun s d => { s with postMerge := d }),
    ("cleanup_interval", durationField fun s d => { s with cleanupInterval := d })]

/-- The fields of the reconciliation section. -/
def reconciliationRecord : YamlRecord ReconciliationTuning where
  typeName := "config.ReconciliationTuning"
  fields := [("lookback", durationField fun s d => { s with lookback := d }),
    ("window_padding", durationField fun s d => { s with windowPadding := d }),
    ("open_tolerance", durationField fun s d => { s with openTolerance := d }),
    ("close_tolerance", durationField fun s d => { s with closeTolerance := d }),
    ("relaxed_open_tolerance", durationField fun s d => { s with relaxedOpenTolerance := d }),
    ("relaxed_close_tolerance", durationField fun s d => { s with relaxedCloseTolerance := d }),
    ("materiality_threshold", ratioField fun s x => { s with materialityThreshold := x }),
    ("requests_per_second", ratioField fun s x => { s with requestsPerSecond := x }),
    ("interval", durationField fun s d => { s with interval := d })]

/-- The fields of the notify section. -/
def notifyRecord : YamlRecord NotifyTuning where
  typeName := "config.NotifyTuning"
  fields := [("queue_size", countField fun s n => { s with queueSize := n }),
    ("workers", countField fun s n => { s with workers := n })]

/-- The record of a tuning file: its sections. -/
def record : YamlRecord Tuning where
  typeName := "config.Tuning"
  fields := [("stream", YamlRecord.nested streamRecord (·.stream) fun t x => { t with stream := x }),
    ("listen_key", YamlRecord.nested listenKeyRecord (·.listenKey) fun t x => { t with listenKey := x }),
    ("sync", YamlRecord.nested syncRecord (·.sync) fun t x => { t with sync := x }),
    ("position", YamlRecord.nested positionRecord (·.position) fun t x => { t with position := x }),
    ("cooldown", YamlRecord.nested cooldownRecord (·.cooldown) fun t x => { t with cooldown := x }),
    ("reconciliation", YamlRecord.nested reconciliationRecord (·.reconciliation)
      fun t x => { t with reconciliation := x }),
    ("notify", YamlRecord.nested notifyRecord (·.notify) fun t x => { t with notify := x })]

/-- A tuning file over a tuning: the file's first document decoded over it, refused with every
misfit when a value does not fit; a file with no document leaves the tuning as it is. -/
def overlay (t : Tuning) (text : String) : Except YamlProblem Tuning := do
  match ← YamlDocument.read text with
  | none => pure t
  | some doc => doc.decodeWith record t

end Tuning

end TradeLedger
