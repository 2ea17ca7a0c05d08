import TradeLedger.Command.MarketSteps
import TradeLedger.Venue.Weight
import TradeLedger.Venue.ServerClock
import TradeLedger.Stream.RateWindow
import TradeLedger.Stream.ListenKey
import TradeLedger.Event.Dispatch
/-!
# Weight, clock, rate window, listen key and dispatch commands

Each command drives one component with steps. The listen-key manager talks to a scripted key
client, every call taking the next entry of its method's script; dispatching runs handlers that
record their calls and succeed, fail or panic as told.

## Main definitions

* `ScriptedKeys`: the scripted key client.
* `listenKey`, `weightTracker`, `rateWindow`: the commands' answers.
-/

namespace TradeLedger

def WeightUsage.toJson (u : WeightUsage) : Json :=
  .obj [("used", Json.ofInt u.used), ("limit", Json.ofInt u.limit),
    ("percent", Json.ofFloat u.percent), ("window_ends", Json.ofTime u.windowEnds)]

/-- The JSON form of the venue clock's state. -/
def ServerClock.toJson (c : ServerClock) : List (String × Json) :=
  [("offset_ms", Json.ofInt (Duration.toMs c.offset)), ("offset_ns", Json.ofInt c.offset),
   ("last_sync", Json.ofTime c.lastSync)]

/-- One scripted answer of a key call; a create given no key answers a fresh one. -/
structure KeyScript where
  key : Option String := none
  error : String := ""
  rejected : Bool := false
  deriving Inhabited

/-- A scripted answer from its JSON form. -/
def KeyScript.ofJson (j : Json) : Input KeyScript := do
  let key ← match Input.arg? j "key" with
    | none | some .null => pure none
    | some _ => some <$> Input.text j "key"
  pure { key, error := ← Input.text j "error",
         rejected := ← Input.flag j "rejected" }

/-- The failure a scripted answer stands for, if any. -/
def KeyScript.fault? (s : KeyScript) : Option Fault :=
  if s.error == "" then none
  else if s.rejected then some { kind := .listenKeyRejected, text := "listen key rejected: " ++ s.error }
  else some (Fault.plain s.error)

/-- The scripted key client: scripts per call, successful creates so far, and the calls made. -/
structure ScriptedKeys where
  creates : List KeyScript := []
  keepAlives : List KeyScript := []
  closes : List KeyScript := []
  created : Nat := 0
  calls : List (String × String) := []
  deriving Inhabited

namespace ScriptedKeys

/-- The next entry of a script; success when it is spent. -/
def pop (xs : List KeyScript) : KeyScript × List KeyScript :=
  match xs with
  | [] => ({}, [])
  | x :: rest => (x, rest)

/-- The scripted key client. -/
def client : KeyClient ScriptedKeys where
  create s :=
    let (x, rest) := pop s.creates
    let s := { s with creates := rest, calls := s.calls ++ [("create", "")] }
    match x.fault? with
    | some f => (s, .error f)
    | none =>
      let n := s.created + 1
      ({ s with created := n }, .ok (x.key.getD ("key-" ++ toString n)))
  keepAlive s key :=
    let (x, rest) := pop s.keepAlives
    let s := { s with keepAlives := rest, calls := s.calls ++ [("keepalive", key)] }
    match x.fault? with
    | some f => (s, .error f)
    | none => (s, .ok ())
  close s key :=
    let (x, rest) := pop s.closes
    let s := { s with closes := rest, calls := s.calls ++ [("close", key)] }
    match x.fault? with
    | some f => (s, .error f)
    | none => (s, .ok ())

/-- The calls made, as answered: `[{method, key}]`. -/
def callsJson (s : ScriptedKeys) : Json :=
  .arr (s.calls.map fun c => .obj [("method", .str c.1), ("key", .str c.2)])

/-- A scripted client from its JSON form. -/
def ofJson (j : Json) : Input ScriptedKeys := do
  pure { creates := ← (← Input.list j "create").mapM KeyScript.ofJson,
         keepAlives := ← (← Input.list j "keepalive").mapM KeyScript.ofJson,
         closes := ← (← Input.list j "close").mapM KeyScript.ofJson }

end ScriptedKeys

namespace Command

/-- `weight_tracker`: the request-weight tracker on the step clock. -/
def weightTracker (j : Json) : Input Json := do
  let w : WeightTracker := { limit := ← Input.int j "limit", window := ← Input.duration j "window_ms" }
  let step (s : Instant × WeightTracker) (j : Json) : Input ((Instant × WeightTracker) × Json) := do
    if let some clock := clockStep? s.1 j then
      let (t, a) ← clock
      return ((t, s.2), a)
    match ← Input.text j "op" with
    | "observe" =>
      let used := match readInt64Text (← Input.text j "header") with
        | .ok n => some n
        | .error _ => none
      let w := s.2.observe s.1 used
      pure ((s.1, w), (w.usage s.1).toJson)
    | "usage" => pure (s, (s.2.usage s.1).toJson)
    | "wait" =>
      match s.2.pause s.1 with
      | none => pure (s, .obj [("paused", .bool false)])
      | some d => pure (s, .obj [("paused", .bool true), ("wait_ms", Json.ofInt (Duration.toMs d))])
    | _ => unknownStep "weight_tracker" j
  pure (stepsAnswer (runSteps step (← startOf j, w) (← Input.list j "ops")).2)

/-- `server_clock`: the venue clock, synced from given readings. -/
def serverClock (j : Json) : Input Json := do
  let step (s : Instant × ServerClock) (j : Json) : Input ((Instant × ServerClock) × Json) := do
    if let some clock := clockStep? s.1 j then
      let (t, a) ← clock
      return ((t, s.2), a)
    match ← Input.text j "op" with
    | "sync" =>
      let err ← Input.text j "error"
      if err != "" then pure (s, .obj (("error", .str err) :: s.2.toJson))
      else
        let c := ServerClock.ofReading (← Input.time j "sent") (← Input.time j "received")
          (← Input.int j "venue_ms")
        pure ((s.1, c), .obj c.toJson)
    | "now_millis" => pure (s, .obj [("now_millis", Json.ofInt (s.2.nowMillis s.1))])
    | "status" => pure (s, .obj s.2.toJson)
    | "run" =>
      let fetches ← Input.list j "fetches"
      if fetches.isEmpty || fetches.length > 10 then .error "fetches must hold 1 to 10 entries"
      let c ← fetches.foldlM (fun (c : ServerClock) f => do
        if (← Input.text f "error") != "" then pure c
        else pure (ServerClock.ofReading s.1 s.1 (← Input.int f "venue_ms"))) {}
      pure (s, .obj [("fetches", Json.ofNat fetches.length),
        ("offset_ms", Json.ofInt (Duration.toMs c.offset)), ("last_sync", Json.ofTime c.lastSync)])
    | _ => unknownStep "server_clock" j
  pure (stepsAnswer (runSteps step (← startOf j, {}) (← Input.list j "ops")).2)

/-- `rate_window`: the frame rate window. -/
def rateWindow (j : Json) : Input Json := do
  let step (w : RateWindow) (j : Json) : Input (RateWindow × Json) := do
    match ← Input.text j "op" with
    | "allow" =>
      let (w, ok) := w.allow
      pure (w, .obj [("allowed", .bool ok)])
    | "reset" => pure (w.reset, okAnswer)
    | "counts" => pure (w, .obj [("count", Json.ofNat w.count), ("limit", Json.ofInt w.limit)])
    | "wait" =>
      if ← Input.flag j "cancelled" then pure (w, .obj [("error", .str "context canceled")])
      else pure (w, okAnswer)
    | "wait_reset" => pure (w.reset, okAnswer)
    | "run_loop" =>
      let ms ← Input.int j "interval_ms"
      if ms ≤ 0 then .error "interval_ms must be positive"
      if maxLoopInterval < ms then .error "interval_ms must be at most 20"
      pure (w.reset, okAnswer)
    | _ => unknownStep "rate_window" j
  pure (stepsAnswer (runSteps step { limit := ← Input.int j "limit" } (← Input.list j "ops")).2)

/-- The state of a listen-key run: clock, manager and client. -/
structure KeyRun where
  now : Instant
  keys : ListenKeys
  client : ScriptedKeys

/-- The answer of a listen-key step: the manager's state and what happened during the step. -/
def keyAnswer (r : KeyRun) (extra : List (String × Json)) : Json :=
  .obj ([("key", .str r.keys.key), ("expires_at", Json.ofTime r.keys.expiresAt),
    ("next_refresh_at", Json.ofTime r.keys.nextRefreshAt), ("calls", r.client.callsJson),
    ("rotations", Json.ofStrings r.keys.rotations)] ++ extra)

/-- The error member of an answer, if any. -/
def faultMember {α : Type} (r : Except Fault α) : List (String × Json) :=
  match r with
  | .ok _ => []
  | .error f => [("error", .str f.text)]

def keyStep (r : KeyRun) (j : Json) : Input (KeyRun × Json) := do
  if let some clock := clockStep? r.now j then
    let (t, a) ← clock
    return ({ r with now := t }, a)
  let r := { r with client := { r.client with calls := [] }, keys := { r.keys with rotations := [] } }
  let c := ScriptedKeys.client
  let (r, extra) ← match ← Input.text j "op" with
    | "acquire" =>
      let (m, s, res) := r.keys.acquire c r.client r.now
      pure ({ r with keys := m, client := s }, faultMember res)
    | "rotate" =>
      let (m, s, res) := r.keys.rotate c r.client r.now
      pure ({ r with keys := m, client := s }, faultMember res)
    | "refresh" =>
      let (m, s, res) := r.keys.refresh c r.client r.now
      pure ({ r with keys := m, client := s }, faultMember res)
    | "release" =>
      let (m, s) := r.keys.release c r.client
      pure ({ r with keys := m, client := s }, [])
    | "state" => pure (r, [])
    | "run" =>
      let (m, s, waits, now) := r.keys.run c r.client r.now (← Input.nat j "iterations")
      pure ({ r with keys := m, client := s, now := now },
        [("waits_ms", .arr (waits.map fun d => Json.ofInt (Duration.toMs d))),
         ("now", Json.ofTime now)])
    | _ => unknownStep "listen_key" j
  pure (r, keyAnswer r extra)

def ListenKeyConfig.ofJson (j : Json) : Input ListenKeyConfig := do
  pure { ttl := ← Input.duration j "ttl_ms", refreshBefore := ← Input.duration j "refresh_before_ms",
         maxAcquireFailures := ← Input.int j "max_acquire_failures",
         retryInterval := ← Input.duration j "retry_interval_ms" }

/-- `listen_key`: the listen-key manager against a scripted client. -/
def listenKey (j : Json) : Input Json := do
  let cfg ← ListenKeyConfig.ofJson (← Input.object j "config")
  let client ← ScriptedKeys.ofJson (← Input.object j "client")
  let r : KeyRun := { now := ← startOf j, keys := ListenKeys.create cfg, client := client }
  pure (stepsAnswer (runSteps keyStep r (← Input.list j "ops")).2)

/-- How a recording handler behaves. -/
structure HandlerSpec where
  kind : String
  name : String
  behavior : String
  message : String

/-- A handler that records its call and then succeeds, fails or panics as specified. -/
def recordingHandler {α : Type} (spec : HandlerSpec) : Handler (α × List Json) := fun s e =>
  let s := (s.1, s.2 ++ [.obj [("handler", .str spec.name), ("kind", .str e.kind.text),
    ("type", .str e.type)]])
  match spec.behavior with
  | "error" => (s, .error spec.message)
  | "panic" => (s, .error ("panic: " ++ spec.message))
  | _ => (s, .ok ())

/-- The dispatcher's counters as answered. -/
def dispatchMetrics (m : Metrics) : Json :=
  .obj [("frames_received", Json.ofNat m.framesReceived),
    ("events_dispatched", Json.ofNat m.eventsDispatched),
    ("decode_errors", Json.ofNat m.decodeErrors), ("handler_errors", Json.ofNat m.handlerErrors)]

/-- The event kinds, as named in answers. -/
def eventKindNames : List String := ["order_update", "account_snapshot", "ticker", "listen_key_expired"]

/-- `dispatch`: frames through a dispatcher of recording handlers. -/
def dispatchFrames (j : Json) : Input Json := do
  let specs ← (← Input.list j "handlers").mapM fun h => do
    pure ({ kind := ← Input.text h "kind", name := ← Input.text h "name",
            behavior := ← Input.text h "behavior", message := ← Input.text h "message" } : HandlerSpec)
  let d := specs.foldl (fun (d : Dispatcher (Metrics × List Json)) s =>
    d.register s.kind s.name (recordingHandler s)) {}
  let frames ← Input.texts j "frames"
  let (m, results) := frames.foldl (fun (acc : Metrics × List Json) f =>
    let ((m, calls), r) := d.dispatch (acc.1, []) (Utf8.encode f)
    (m, acc.2 ++ [.obj [("published", Json.ofNat r.events.length),
      ("errors", .arr (r.errors.map DecodeError.toJson)), ("calls", .arr calls)]])) ({}, [])
  pure (.obj [("results", .arr results),
    ("handlers", .obj (eventKindNames.map fun k => (k, Json.ofNat (d.count k)))),
    ("metrics", dispatchMetrics m)])

end Command

end TradeLedger
