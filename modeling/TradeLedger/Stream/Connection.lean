import TradeLedger.Stream.State
import TradeLedger.Stream.ListenKey
import TradeLedger.Network.Dial
import TradeLedger.Time.DurationText
import TradeLedger.Text.Fold
/-!
# Stream connections

A stream connection keeps one websocket to the venue alive. Its reading loop dials; each failed
dial moves it to error and counts an error in a row, and unless too many came in a row waits out
a backoff (the initial wait, times the multiplier, up to the cap). One error more than the
ceiling is fatal: the connection closes, says so in a critical notification, and is done. A
private connection also holds a listen key: it acquires one before starting (a failure stops the
start), keeps it alive in a loop of its own, rotates it when the venue says it expired, and
releases it on stop.

A turn of the reading loop is taken against what the network does with its dial: it refuses,
or it connects and the socket delivers frames until a read fails or the connection closes it to
reconnect with a rotated key. A connected dial resets the backoff; the first frame dispatched on
a socket clears the errors in a row. Time is the connection's own clock, in nanoseconds, moved
only by the caller.

## Main definitions

* `StreamConfig`, `Backoff`: the settings and the wait between dials.
* `Connection`: the connection with its lifecycle state, counters and key manager.
-/

namespace TradeLedger

/-- How a stream connection dials and gives up. A zero (or negative) value selects a default. -/
structure StreamConfig where
  name : String := ""
  url : String := ""
  streams : List String := []
  pingInterval : Duration := 0
  pongTimeout : Duration := 0
  handshakeTimeout : Duration := 0
  maxConsecutiveErrors : Int := 0
  maxMessagesPerSecond : Int := 0
  backoffInitial : Duration := 0
  backoffMax : Duration := 0
  backoffMultiplier : Float := 0
  deriving Repr, Inhabited

/-- The defaults: the name `stream`, a ping every thirty seconds and twice that for the pong,
ten seconds for the handshake, ten errors in a row, a first wait of a second, a cap of a
minute when the given cap is below the first wait, and a multiplier of two when below one.
The frame limit has no default. -/
def StreamConfig.withDefaults (c : StreamConfig) : StreamConfig :=
  let ping := if c.pingInterval ≤ 0 then 30 * Duration.perSecond else c.pingInterval
  let initial := if c.backoffInitial ≤ 0 then Duration.perSecond else c.backoffInitial
  { c with
    name := if c.name.isEmpty then "stream" else c.name
    pingInterval := ping
    pongTimeout := if c.pongTimeout ≤ 0 then 2 * ping else c.pongTimeout
    handshakeTimeout := if c.handshakeTimeout ≤ 0 then 10 * Duration.perSecond else c.handshakeTimeout
    maxConsecutiveErrors := if c.maxConsecutiveErrors ≤ 0 then 10 else c.maxConsecutiveErrors
    backoffInitial := initial
    backoffMax := if c.backoffMax < initial then 60 * Duration.perSecond else c.backoffMax
    backoffMultiplier := if c.backoffMultiplier < 1 then 2 else c.backoffMultiplier }

/-- Capped exponential waits: the wait it gives next, and how it grows. -/
structure Backoff where
  current : Duration
  cap : Duration
  multiplier : Float
  deriving Repr, Inhabited

namespace Backoff

/-- The waits of a configuration, starting at its first wait. -/
def ofConfig (c : StreamConfig) : Backoff :=
  { current := c.backoffInitial, cap := c.backoffMax, multiplier := c.backoffMultiplier }

/-- The next wait, and the waits after it: the wait times the multiplier, cut to whole
nanoseconds, or the cap once the product would reach it. -/
def next (b : Backoff) : Duration × Backoff :=
  let grown := if Float.ofInt b.current ≥ Float.ofInt b.cap / b.multiplier then b.cap
    else truncateToInt64 (Float.ofInt b.current * b.multiplier)
  (b.current, { b with current := grown })

end Backoff

/-- How a live socket ends. -/
inductive SocketEnd where
  /-- a read fails with the socket's error text: the peer closed or dropped the socket, or the
  heartbeat closed it when a pong came late -/
  | readFails (err : String)
  /-- the connection closed it to reconnect with a rotated listen key -/
  | forced
  deriving Repr, Inhabited

/-- What the network does with one dial: it refuses it, or it connects and the socket delivers
frames, each dispatched or failing with the dispatcher's error text, until it ends. -/
inductive Session where
  | refused
  | connects (frames : List (Except String Unit)) (ending : SocketEnd)
  deriving Repr, Inhabited

/-- A stream connection: its configuration (defaults applied) and listen key, its lifecycle
state, its counters (dials since the last connection, errors in a row, reconnections), the
last error and the fatal one, the backoff and the wait it gave last, its clock, whether it
runs, when each loop acts next, whether it is done, and the notifications it raised. -/
structure Connection where
  config : StreamConfig
  keys : Option ListenKeys := none
  state : StreamState := .disconnected
  attempts : Nat := 0
  consecutiveErrors : Nat := 0
  reconnects : Nat := 0
  lastError : String := ""
  fatal : Option String := none
  backoff : Backoff
  nextDelay : Duration := 0
  clock : Duration := 0
  running : Bool := false
  nextDial : Option Duration := none
  nextKeyWork : Option Duration := none
  done : Bool := false
  notes : List Note := []
  deriving Inhabited

namespace Connection

/-- A connection that has not started, with a listen key when it is private. -/
def create (config : StreamConfig) (keys : Option ListenKeyConfig) : Connection :=
  let config := config.withDefaults
  { config, keys := keys.map ListenKeys.create, backoff := Backoff.ofConfig config }

/-- The connection's clock as an instant, in whole milliseconds. -/
def now (c : Connection) : Instant := some (c.clock.tdiv Duration.perMs)

/-- A public stream's name as the venue takes it: names starting with `!` as they are, the
symbol before any `@` in lower case, the kind after it as it is. -/
def wireName (s : String) : String :=
  let lower (t : String) : String := String.ofList (t.toList.map Char.toLowerSimple)
  if s.startsWith "!" then s
  else
    match s.splitOn "@" with
    | symbol :: kind :: more => lower symbol ++ "@" ++ "@".intercalate (kind :: more)
    | _ => lower s

/-- The URL a dial goes to: the base without trailing slashes, then the listen key as a path
segment (a private connection without a key has no target), or the public streams as a
query. -/
def target (c : Connection) : Except String String :=
  let base := String.ofList (c.config.url.toList.reverse.dropWhile (· == '/')).reverse
  match c.keys with
  | some k =>
    if k.key.isEmpty then .error "no listen key" else .ok (base ++ "/" ++ Url.escapeSegment k.key)
  | none =>
    if c.config.streams.isEmpty then .ok base
    else .ok (base ++ "?streams=" ++ "/".intercalate (c.config.streams.map wireName))

/-- Why a dial fails here: there is no target, or the network refuses it. -/
def dialError (c : Connection) : String :=
  match c.target with
  | .error e => e
  | .ok t => "dial " ++ c.config.name ++ ": " ++ websocketDialFailure t

/-- Move to a state when the lifecycle allows it, else stay. -/
def moveTo (c : Connection) (s : StreamState) : Connection :=
  match c.state.transition s with
  | .ok s => { c with state := s }
  | .error _ => c

/-- Take the listen key's alerts into the connection's notifications. -/
def collectAlerts (c : Connection) : Connection :=
  match c.keys with
  | some k => { c with keys := some { k with alerts := [] }, notes := c.notes ++ k.alerts }
  | none => c

/-- When the key loop acts next from `now`: after a failure, the retry interval later;
otherwise when the key is due for a refresh (at once when overdue or unset). -/
def keyDue (k : ListenKeys) (now : Duration) (failed : Bool) : Duration :=
  if failed then now + k.config.retryInterval
  else
    match k.nextRefreshAt with
    | some ms => max now (Duration.ofMs ms)
    | none => now

/-- Count an error; past the ceiling the connection turns fatal: it closes, raises a critical
notification, is done, and its reading loop ends. -/
def recordError (c : Connection) (err : String) : Connection :=
  let n := c.consecutiveErrors + 1
  let c := { c with consecutiveErrors := n, lastError := err }
  if (n : Int) ≤ c.config.maxConsecutiveErrors then c
  else
    let fatal := "stream fatal: " ++ c.config.name ++ ": " ++ toString n ++
      " consecutive errors, last: " ++ err
    let note : Note :=
      { level := .critical, source := "stream", title := c.config.name ++ " stopped",
        message := fatal, fields := [("consecutive_errors", Json.ofNat n)] }
    let c := c.moveTo .closed
    { c with
      fatal := some fatal
      notes := c.notes ++ [note]
      done := true
      nextDial := none }

/-- Ask the lifecycle for a state, and note the request. -/
def request (c : Connection) (trail : List StreamState) (s : StreamState) :
    Connection × List StreamState :=
  (c.moveTo s, trail ++ [s])

/-- Count an error, noting the close it asks for when it turns the connection fatal. -/
def countError (c : Connection) (trail : List StreamState) (err : String) :
    Connection × List StreamState :=
  let closes := decide (c.config.maxConsecutiveErrors < ((c.consecutiveErrors + 1 : Nat) : Int))
  (c.recordError err, if closes then trail ++ [.closed] else trail)

/-- Unless the connection turned fatal, reconnect and wait out the next backoff. -/
def rearm (c : Connection) (trail : List StreamState) : Connection × List StreamState :=
  if c.fatal.isSome then (c, trail)
  else
    let (c, trail) := c.request trail .reconnecting
    let (delay, backoff) := c.backoff.next
    ({ c with
      reconnects := c.reconnects + 1
      backoff
      nextDelay := delay
      nextDial := some (c.clock + delay) }, trail)

/-- A failed dial or socket: move to error, count the error, and reconnect unless that was
fatal. -/
def failTurn (c : Connection) (trail : List StreamState) (err : String) :
    Connection × List StreamState :=
  let (c, trail) := c.request trail .faulted
  let (c, trail) := c.countError trail err
  c.rearm trail

/-- Read frames from a live socket; `healthy` once one was dispatched. The first dispatched
frame clears the errors in a row; a frame failing before it counts as an error, and an error
that turns the connection fatal stops the reading. -/
def consume (c : Connection) (trail : List StreamState) :
    Bool → List (Except String Unit) → Connection × List StreamState
  | _, [] => (c, trail)
  | true, _ :: rest => consume c trail true rest
  | false, .ok () :: rest => consume { c with consecutiveErrors := 0 } trail true rest
  | false, .error e :: rest =>
    let (c, trail) := c.countError trail ("decode " ++ c.config.name ++ ": " ++ e)
    if c.fatal.isSome then (c, trail) else consume c trail false rest

/-- One turn of the reading loop at the clock's time, against what the network does with the
dial, with the states the turn asks the lifecycle for. It tries to connect (which the lifecycle
may refuse); a dial that connects resets the dial count and the backoff, and its socket is read
until it ends. A forced end closes and reconnects without counting; a failure moves to error,
counts, and unless that was fatal reconnects after the next backoff. -/
def readTurn (c : Connection) (s : Session) : Connection × List StreamState :=
  match c.state.transition .connecting with
  | .error e => c.failTurn [.connecting] e
  | .ok st =>
    let c := { c with state := st, attempts := c.attempts + 1 }
    match s, c.target with
    | .connects frames ending, .ok _ =>
      match c.state.transition .connected with
      | .error e => c.failTurn [.connecting, .connected] e
      | .ok st =>
        let c := { c with
          state := st
          attempts := 0
          nextDelay := 0
          backoff := Backoff.ofConfig c.config }
        let (c, trail) := c.consume [.connecting, .connected] false frames
        if c.fatal.isSome then (c, trail)
        else
          match ending with
          | .forced =>
            let (c, trail) := c.request trail .closed
            c.rearm trail
          | .readFails err => c.failTurn trail ("read " ++ c.config.name ++ ": " ++ err)
    -- without a target (a private connection without a key) or a network that refuses
    | _, _ => c.failTurn [.connecting] c.dialError

/-- One turn of the reading loop when the network refuses every dial. -/
def dialOnce (c : Connection) : Connection := (c.readTurn .refused).1

/-- One turn of the key loop at the clock's time: refresh the key, and schedule the next turn. -/
def keyOnce {κ : Type} (c : Connection) (client : KeyClient κ) (s : κ) : Connection × κ :=
  match c.keys with
  | none => ({ c with nextKeyWork := none }, s)
  | some k =>
    let (k, s, r) := k.refresh client s c.now
    let c := { c with keys := some k, nextKeyWork := some (keyDue k c.clock r.toBool.not) }
    (c.collectAlerts, s)

/-- The next step of either loop, before `horizon`: its time and whether it is the key loop's.
The reading loop goes first at a tie. -/
def nextStep? (c : Connection) (horizon : Duration) : Option (Duration × Bool) :=
  let dial := c.nextDial.filter (· < horizon)
  let key := c.nextKeyWork.filter (· < horizon)
  match dial, key with
  | some d, some k => if k < d then some (k, true) else some (d, false)
  | some d, none => some (d, false)
  | none, some k => some (k, true)
  | none, none => none

/-- Let time pass up to `horizon`, or until `stop` holds, whichever comes first; the loops take
their steps in time order meanwhile. -/
def advance {κ : Type} (c : Connection) (client : KeyClient κ) (s : κ) (horizon : Duration)
    (stop : Connection → Bool) : Connection × κ :=
  go (2 * ((horizon - c.clock) / Duration.perMs).toNat + 4) c s
where
  /-- At most `fuel` more steps. -/
  go : Nat → Connection → κ → Connection × κ
    | 0, c, s => ({ c with clock := max c.clock horizon }, s)
    | fuel + 1, c, s =>
      if stop c then (c, s)
      else
        match c.nextStep? horizon with
        | none => ({ c with clock := max c.clock horizon }, s)
        | some (t, true) =>
          let (c, s) := keyOnce { c with clock := t } client s
          go fuel c s
        | some (t, false) => go fuel (dialOnce { c with clock := t }) s

/-- Start: a private connection first acquires its key, and a failure stops the start. The
reading loop dials at once, and the key loop waits until the key is due. -/
def start {κ : Type} (c : Connection) (client : KeyClient κ) (s : κ) :
    Connection × κ × Except Fault Unit :=
  let launch (c : Connection) : Connection :=
    { c with
      running := true
      nextDial := some c.clock
      nextKeyWork := c.keys.map fun k => keyDue k c.clock false }
  match c.keys with
  | none => (launch c, s, .ok ())
  | some k =>
    match k.acquire client s c.now with
    | (k, s, .ok _) => (launch { c with keys := some k }.collectAlerts, s, .ok ())
    | (k, s, .error f) =>
      ({ c with keys := some k }.collectAlerts, s, .error (f.wrap ("start " ++ c.config.name ++ ": ")))

/-- Stop a started connection: both loops end, it closes, its key is released, and it is done.
Stopping one that does not run does nothing. -/
def stop {κ : Type} (c : Connection) (client : KeyClient κ) (s : κ) : Connection × κ :=
  if !c.running then (c, s)
  else
    let c := c.moveTo .closed
    let c := { c with
      running := false
      nextDial := none
      nextKeyWork := none
      done := true }
    match c.keys with
    | none => (c, s)
    | some k =>
      let (k, s) := k.release client s
      ({ c with keys := some k }, s)

/-- The venue said the key expired: a private connection rotates it. -/
def listenKeyExpired {κ : Type} (c : Connection) (client : KeyClient κ) (s : κ) :
    Connection × κ × Except Fault Unit :=
  match c.keys with
  | none => (c, s, .ok ())
  | some k =>
    let (k, s, r) := k.rotate client s c.now
    ({ c with keys := some k }.collectAlerts, s, r.map fun _ => ())

end Connection

end TradeLedger
