import TradeLedger.Fault
import TradeLedger.Notify.Note
import TradeLedger.Time.Instant
/-!
# Listen keys

The private stream is opened with a listen key that the venue lets expire unless it is kept
alive. The manager holds the current key and its expiry, keeps it alive some time before the
expiry, and acquires a new key (a rotation) when there is none or the venue rejects the old
one. Every `maxAcquireFailures`-th failure in a row to acquire a key raises a critical
notification. The venue is reached through a key client, a state machine over a state `κ`.

## Main definitions

* `KeyClient`: the venue's side, as a state machine.
* `ListenKeys`: the manager, with `acquire`, `refresh`, `rotate` and `release`.
-/

namespace TradeLedger

structure ListenKeyConfig where
  ttl : Duration := 0
  refreshBefore : Duration := 0
  maxAcquireFailures : Int := 0
  retryInterval : Duration := 0
  deriving Repr, Inhabited

/-- Defaults for unset values: an hour of life, refresh five minutes before the expiry (also
when the given lead is not shorter than the life), an alert every three failures, and thirty
seconds between retries. -/
def ListenKeyConfig.withDefaults (c : ListenKeyConfig) : ListenKeyConfig :=
  let ttl := if c.ttl ≤ 0 then Duration.ofMs 3600000 else c.ttl
  { ttl := ttl,
    refreshBefore := if c.refreshBefore ≤ 0 ∨ ttl ≤ c.refreshBefore then Duration.ofMs 300000
      else c.refreshBefore,
    maxAcquireFailures := if c.maxAcquireFailures ≤ 0 then 3 else c.maxAcquireFailures,
    retryInterval := if c.retryInterval ≤ 0 then Duration.ofMs 30000 else c.retryInterval }

/-- The venue's listen-key calls over a client state `κ`. -/
structure KeyClient (κ : Type) where
  create : κ → κ × Except Fault String
  keepAlive : κ → String → κ × Except Fault Unit
  close : κ → String → κ × Except Fault Unit

/-- The manager's state: the key, its expiry, the failures in a row to acquire one, the keys
rotated in, and the notifications raised. -/
structure ListenKeys where
  config : ListenKeyConfig
  key : String := ""
  expiresAt : Instant := none
  failures : Nat := 0
  rotations : List String := []
  alerts : List Note := []
  deriving Inhabited

namespace ListenKeys

/-- A manager with the defaults applied to its configuration. -/
def create (c : ListenKeyConfig) : ListenKeys := { config := c.withDefaults }

/-- When the key should be kept alive; unset without an expiry. -/
def nextRefreshAt (m : ListenKeys) : Instant :=
  if m.expiresAt.isNone then none
  else m.expiresAt.addMs (-(Duration.toMs m.config.refreshBefore))

/-- Acquire a new key from the venue. -/
def acquire {κ : Type} (m : ListenKeys) (c : KeyClient κ) (s : κ) (now : Instant) :
    ListenKeys × κ × Except Fault String :=
  match c.create s with
  | (s, .ok key) =>
    ({ m with key := key, expiresAt := now.addMs (Duration.toMs m.config.ttl), failures := 0 },
      s, .ok key)
  | (s, .error f) =>
    let n := m.failures + 1
    let alert : Note :=
      { level := .critical, source := "listenkey", title := "listen key unavailable",
        message := f.text, fields := [("failures", Json.ofNat n)] }
    let m := { m with failures := n }
    let m := if (n : Int) % m.config.maxAcquireFailures == 0 then
        { m with alerts := m.alerts ++ [alert] } else m
    (m, s, .error (f.wrap ("acquire listen key (failure " ++ toString n ++ "): ")))

/-- Acquire a new key and announce it as a rotation. -/
def rotate {κ : Type} (m : ListenKeys) (c : KeyClient κ) (s : κ) (now : Instant) :
    ListenKeys × κ × Except Fault String :=
  match m.acquire c s now with
  | (m, s, .ok key) => ({ m with rotations := m.rotations ++ [key] }, s, .ok key)
  | other => other

/-- Keep the key alive, rotating when there is none or the venue rejects it. -/
def refresh {κ : Type} (m : ListenKeys) (c : KeyClient κ) (s : κ) (now : Instant) :
    ListenKeys × κ × Except Fault Unit :=
  if m.key == "" then
    let (m, s, r) := m.rotate c s now
    (m, s, r.map fun _ => ())
  else
    match c.keepAlive s m.key with
    | (s, .ok ()) => ({ m with expiresAt := now.addMs (Duration.toMs m.config.ttl) }, s, .ok ())
    | (s, .error f) =>
      if f.kind == .listenKeyRejected then
        let (m, s, r) := m.rotate c s now
        (m, s, r.map fun _ => ())
      else (m, s, .error (f.wrap "refresh listen key: "))

/-- Forget the key and close it at the venue; a failure to close is only logged. -/
def release {κ : Type} (m : ListenKeys) (c : KeyClient κ) (s : κ) : ListenKeys × κ :=
  let key := m.key
  let m := { m with key := "", expiresAt := none }
  if key == "" then (m, s) else (m, (c.close s key).1)

/-- How long the refresh loop waits at `now` before its next refresh: the wait left over from a
failure when there is one, else until the key is due (nothing when there is no expiry); never
negative, so an overdue refresh happens at once. -/
def waitFor (m : ListenKeys) (now : Instant) (pending : Duration) : Duration :=
  let next := m.nextRefreshAt
  let wait := if next.isSome && pending == 0 then Instant.sub next now else pending
  if wait < 0 then 0 else wait

/-- The refresh loop for `waits` waits: each wait lasts until the next refresh is due (at
once when it is overdue, or the retry interval after a failure), moves the clock, and is
followed by a refresh. Answers the waits and the final instant. -/
def run {κ : Type} (m : ListenKeys) (c : KeyClient κ) (s : κ) (now : Instant) (waits : Nat) :
    ListenKeys × κ × List Duration × Instant :=
  go m s now waits 0 []
where
  /-- The loop with `fuel` waits left and the pending wait. -/
  go (m : ListenKeys) (s : κ) (now : Instant) (fuel : Nat) (pending : Duration)
      (log : List Duration) : ListenKeys × κ × List Duration × Instant :=
    match fuel with
    | 0 => (m, s, log, now)
    | fuel + 1 =>
      let wait := m.waitFor now pending
      let now := now.addMs (Duration.toMs wait)
      match m.refresh c s now with
      | (m, s, .ok ()) => go m s now fuel 0 (log ++ [wait])
      | (m, s, .error _) => go m s now fuel m.config.retryInterval (log ++ [wait])

end ListenKeys

end TradeLedger
