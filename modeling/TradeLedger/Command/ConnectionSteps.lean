import TradeLedger.Stream.Connection
import TradeLedger.Command.VenueSteps
/-!
# The stream connection command

Drive a stream connection with steps against a scripted websocket server on a loopback port and,
for a private connection, the scripted key client. The network refuses every dial, so a step
that waits for the client's next dial lets 0.8 s pass and answers that it timed out, and the
steps that need a live socket find none. The answer adds the notifications raised and the
connection's counters, taken after it is stopped.

## Main definitions

* `connectionStep`: one step.
* `connection`: the command's answer.
-/

namespace TradeLedger

namespace Command

/-- The address of the scripted websocket server. -/
def socketServerAddr : String := "127.0.0.1:41641"

/-- A text with every loopback address and its port shown as `<addr>`. -/
def maskLoopback (s : String) : String :=
  String.ofList (go s.length s.toList)
where
  /-- Mask the rest, at most `fuel` more characters. -/
  go : Nat → List Char → List Char
    | 0, cs => cs
    | fuel + 1, cs =>
      let lead := "127.0.0.1:".toList
      if lead.isPrefixOf cs then
        let rest := cs.drop lead.length
        let port := rest.takeWhile Char.isDigit
        if port.isEmpty then cs.take 1 ++ go fuel (cs.drop 1)
        else "<addr>".toList ++ go fuel (rest.drop port.length)
      else
        match cs with
        | c :: more => c :: go fuel more
        | [] => []

/-- How long a step that waits for the client lets time pass at most. -/
def clientWait : Duration := 2 * Duration.perSecond

/-- How long waiting for the connection to be done lets time pass at most. -/
def doneWait : Duration := 800 * Duration.perMs

/-- How long a step that waits for the client's next dial lets time pass. -/
def dialWait : Duration := 800 * Duration.perMs

/-- A connection under steps, with the scripted key client. -/
structure ConnectionRun where
  conn : Connection
  client : ScriptedKeys

namespace ConnectionRun

/-- The key calls since the last report, which this report ends. -/
def reportCalls (r : ConnectionRun) : ConnectionRun × Json :=
  ({ r with client := { r.client with calls := [] } }, r.client.callsJson)

/-- Let time pass for `span`, or until `stop` holds. -/
def wait (r : ConnectionRun) (span : Duration) (stop : Connection → Bool) : ConnectionRun :=
  let (conn, client) := r.conn.advance ScriptedKeys.client r.client (r.conn.clock + span) stop
  { conn, client }

end ConnectionRun

/-- The status of a connection as answered; `current` adds the state and name read again. -/
def connectionStatus (c : Connection) (current : Bool) : Json :=
  .obj ([("name", .str c.config.name), ("state", .str c.state.text),
    ("attempts", Json.ofNat c.attempts), ("consecutive_errors", Json.ofNat c.consecutiveErrors),
    ("window_limit", Json.ofInt c.config.maxMessagesPerSecond),
    ("next_delay", .str (if c.nextDelay > 0 then Duration.text c.nextDelay else "")),
    ("connected_at_set", .bool false), ("last_pong_set", .bool false),
    ("last_error", .str (maskLoopback c.lastError)),
    ("fatal", .str (maskLoopback (c.fatal.getD ""))),
    ("listen_key_expires_set", .bool (match c.keys with
      | some k => k.expiresAt.isSome
      | none => false))] ++
    (if current then [("state_now", .str c.state.text), ("name_now", .str c.config.name)] else []))

/-- A notification as answered. -/
def connectionNote (n : Note) : Json :=
  .obj [("level", .str n.level.text), ("source", .str n.source), ("title", .str n.title),
    ("message", .str (maskLoopback n.message)), ("fields", .obj n.fields)]

/-- The answer of an operation: `ok`, or its failure, with the key calls. -/
def withCalls (res : Except Fault Unit) (calls : Json) : Json :=
  .obj ((match res with
    | .ok () => [("ok", .bool true)]
    | .error f => faultAnswer f) ++ [("key_calls", calls)])

/-- The answer of a step that needs a live socket. -/
def noConnection : Json := .obj [("barrier", .str "no_connection"), ("handled", .arr [])]

def connectionStep (r : ConnectionRun) (j : Json) : Input (ConnectionRun × Json) := do
  let c := ScriptedKeys.client
  let ok : Json := .obj [("ok", .bool true)]
  match ← Input.text j "op" with
  | "start" =>
    let (conn, client, res) := r.conn.start c r.client
    let (r, calls) := ConnectionRun.reportCalls { conn, client }
    pure (r, withCalls res calls)
  | "accept" => pure (r.wait dialWait fun _ => false, .obj [("timeout", .bool true)])
  | "reject" =>
    let status ← Input.int j "status"
    if status < 100 || status > 599 then throw "reject status must be an HTTP status"
    pure (r.wait dialWait fun _ => false, .obj [("timeout", .bool true)])
  | "send" | "barrier" | "server_pong" => pure (r, noConnection)
  | "server_close" | "drop" | "force_reconnect" | "reset_window" => pure (r, ok)
  | "listen_key_expired" =>
    let (conn, client, res) := r.conn.listenKeyExpired c r.client
    let (r, calls) := ConnectionRun.reportCalls { conn, client }
    pure (r, withCalls res calls)
  | "await_throttle" =>
    let count ← Input.int j "count"
    let reached := count ≤ 0
    pure (if reached then r else r.wait clientWait fun _ => false, .obj [("throttled", .bool reached)])
  | "await_backoff" =>
    let r := r.wait clientWait fun c => c.nextDelay > 0
    pure (r, .obj [("waiting", .bool (r.conn.nextDelay > 0))])
  | "sleep" =>
    let ms ← Input.int j "ms"
    pure (r.wait (Duration.ofMs ms) fun _ => false, ok)
  | "wait_done" =>
    let r := r.wait doneWait (·.done)
    pure (r, .obj ([("done", .bool r.conn.done)] ++
      (if r.conn.done then [("fatal", .bool r.conn.fatal.isSome)] else [])))
  | "status" => pure (r, connectionStatus r.conn true)
  | "stop" =>
    let (conn, client) := r.conn.stop c r.client
    let (r, calls) := ConnectionRun.reportCalls { conn, client }
    pure (r, .obj [("ok", .bool true), ("status", connectionStatus r.conn false), ("key_calls", calls)])
  | "key_calls" =>
    let (r, calls) := r.reportCalls
    pure (r, .obj [("key_calls", calls)])
  | _ => unknownStep "connection" j

/-- A connection's configuration from its JSON form: the scripted server's URL for its kind
unless `url` replaces it. -/
def StreamConfig.ofJson (j : Json) : Input (StreamConfig × Bool) := do
  let isPrivate ← Input.flag j "private"
  let url ← Input.text j "url"
  let url := if url.isEmpty then
      "ws://" ++ socketServerAddr ++ (if isPrivate then "/ws" else "/stream")
    else url
  let config : StreamConfig :=
    { name := ← Input.text j "name", url, streams := ← Input.texts j "streams",
      pingInterval := ← Input.duration j "ping_interval_ms",
      pongTimeout := ← Input.duration j "pong_timeout_ms",
      handshakeTimeout := ← Input.duration j "handshake_timeout_ms",
      maxConsecutiveErrors := ← Input.int j "max_consecutive_errors",
      maxMessagesPerSecond := ← Input.int j "max_messages_per_second",
      backoffInitial := ← Input.duration j "backoff_initial_ms",
      backoffMax := ← Input.duration j "backoff_max_ms",
      backoffMultiplier := ← Input.float j "backoff_multiplier" }
  pure (config, isPrivate)

/-- `connection`: a stream connection driven by steps. -/
def connection (j : Json) : Input Json := do
  let (config, isPrivate) ← StreamConfig.ofJson (← Input.object j "config")
  let keys ← if isPrivate then some <$> ListenKeyConfig.ofJson (← Input.object j "listen_key")
    else pure none
  let client ← ScriptedKeys.ofJson (← Input.object j "client")
  let init : ConnectionRun := { conn := Connection.create config keys, client }
  let (r, answers) := runSteps connectionStep init (← Input.list j "ops")
  let (conn, _) := r.conn.stop ScriptedKeys.client r.client
  pure (.obj [("steps", .arr answers), ("notifications", .arr (conn.notes.map connectionNote)),
    ("metrics", .obj [("frames_received", Json.ofNat 0), ("events_dispatched", Json.ofNat 0),
      ("decode_errors", Json.ofNat 0), ("handler_errors", Json.ofNat 0),
      ("reconnects", Json.ofNat conn.reconnects), ("throttled_waits", Json.ofNat 0)])])

end Command

end TradeLedger
