import TradeLedger.Command.Steps
import TradeLedger.Cooldown.Table
import TradeLedger.Remote.KeyStore
/-!
# The cooldown command

A cooldown table on the step clock, optionally with a persister: a recording one that answers a
given list on load and logs every save and delete, or the Redis persister, whose server the
network never lets it reach.

## Main definitions

* `CooldownRun`, `cooldownStep`: the table with its persister, and one step.
-/

namespace TradeLedger

def Cooldown.toJson (c : Cooldown) : Json :=
  .obj [
    ("scope", .str c.scope.text),
    ("symbol", .str c.symbol),
    ("trader_id", .str c.traderId),
    ("end_time", Json.ofTime c.endTime),
    ("duration_ms", Json.ofInt (Duration.toMs c.duration)),
    ("reason", .str c.reason),
    ("remaining_ms", Json.ofInt (Duration.toMs c.remaining)),
    ("key", .str c.key)]

def Cooldown.ofJson (j : Json) : Input Cooldown := do
  pure {
    scope := Scope.ofText (← Input.text j "scope")
    symbol := ← Input.text j "symbol"
    traderId := ← Input.text j "trader_id"
    endTime := ← Input.time j "end_time"
    duration := Duration.ofMs (← Input.int j "duration_ms")
    reason := ← Input.text j "reason"
    remaining := Duration.ofMs (← Input.int j "remaining_ms") }

def PersistCall.toJson : PersistCall → Json
  | .save c => .obj [("call", .str "save"), ("key", .str c.key), ("end_time", Json.ofTime c.endTime),
      ("reason", .str c.reason)]
  | .delete c => .obj [("call", .str "delete"), ("key", .str c.key),
      ("end_time", Json.ofTime c.endTime)]

/-- The JSON form of a key held by the server. -/
def KeyEntry.toJson (e : KeyEntry) : Json :=
  .obj [("key", .str e.key), ("value", .str e.value), ("ttl_ms", Json.ofInt (e.ttl.getD (-1)))]

/-- A seeded key; a time to live of 0 means none. -/
def KeyEntry.ofJson (j : Json) : Input KeyEntry := do
  let ttl ← Input.int j "ttl_ms"
  pure { key := ← Input.text j "key", value := ← Input.text j "value",
         ttl := if ttl == 0 then none else some ttl }

inductive CooldownPersister where
  | none
  | recording (load : List Cooldown) (loadError : String)
  | redis (store : KeyStore)
  deriving Inhabited

/-- The cooldown command's state. -/
structure CooldownRun where
  now : Instant
  table : Cooldowns
  persister : CooldownPersister
  deriving Inhabited

namespace Command

/-- The longest interval a cleanup loop may be run with. -/
def maxLoopInterval : Int := 20

/-- The answer of a table operation that changes the table. -/
def withTable (r : CooldownRun) (p : Cooldowns × Json) : Input (CooldownRun × Json) :=
  pure ({ r with table := p.1 }, p.2)

/-- A step on a cooldown table alone, if the step is one: the table afterwards and the
answer. -/
def cooldownTableStep? (b : Cooldowns) (now : Instant) (j : Json) : Option (Input (Cooldowns × Json)) :=
  let setterScope (op : String) : Option Scope := match op with
    | "set_symbol" => some .symbol
    | "set_trader" => some .symbolTrader
    | "set_post_merge" => some .postMerge
    | _ => none
  match Input.text j "op" with
  | .ok op =>
    match setterScope op with
    | some scope => some do
      let (t, c) := b.setFor now scope (← Input.text j "symbol") (← Input.text j "trader_id")
        (← Input.duration j "ms") (← Input.text j "reason")
      pure (t, c.toJson)
    | none =>
      match op with
      | "set_until" => some do
        let (t, c) := b.setUntil now (Scope.ofText (← Input.text j "scope")) (← Input.text j "symbol")
          (← Input.text j "trader_id") (← Input.time j "end") (← Input.text j "reason")
        pure (t, c.toJson)
      | "is_on_cooldown" => some do
        match b.check now (← Input.text j "symbol") (← Input.text j "trader_id") with
        | (t, some c) => pure (t, .obj [("on", .bool true), ("cooldown", c.toJson)])
        | (t, none) => pure (t, .obj [("on", .bool false)])
      | "clear" => some do
        let (t, removed) := b.clear (Scope.ofText (← Input.text j "scope")) (← Input.text j "symbol")
          (← Input.text j "trader_id")
        pure (t, .obj [("removed", .bool removed)])
      | "cleanup" => some do
        let (t, n) := b.cleanup now
        pure (t, .obj [("removed", Json.ofNat n)])
      | "active" => some do
        let live := b.active now (← Input.text j "symbol") (← Input.text j "trader_id")
        pure (b, .obj [("cooldowns", .arr (live.map Cooldown.toJson))])
      | _ => none
  | .error _ => none

def cooldownStep (r : CooldownRun) (j : Json) : Input (CooldownRun × Json) := do
  if let some clock := clockStep? r.now j then
    let (t, a) ← clock
    return ({ r with now := t }, a)
  if let some step := cooldownTableStep? r.table r.now j then
    return ← withTable r (← step)
  match ← Input.text j "op" with
  | "restore" =>
    match r.persister with
    | .none => pure (r, .obj [("restored", Json.ofNat 0), ("error", .null)])
    | .recording load err =>
      if err != "" then pure (r, .obj [("restored", Json.ofNat 0), ("error", .str err)])
      else
        let (t, n) := r.table.restore r.now load
        withTable r (t, .obj [("restored", Json.ofNat n), ("error", .null)])
    | .redis _ => pure (r, .obj [("restored", Json.ofNat 0),
        ("error", .str ("redis scan: " ++ dialRefused))])
  | "flush" => pure (r, .obj [("error", .null)])
  | "close" => pure ({ r with table := r.table.close }, .obj [("error", .null)])
  | "persisted" =>
    let calls := match r.persister with
      | .recording _ _ => r.table.calls.map PersistCall.toJson
      | _ => []
    pure (r, .obj [("error", .null), ("calls", .arr calls)])
  | "redis_dump" =>
    match r.persister with
    | .redis s => pure (r, .obj [("flush_error", .null), ("keys", .arr (s.sorted.map KeyEntry.toJson))])
    | _ => .error "no redis installed"
  | "redis_error" =>
    match r.persister with
    | .redis s => pure ({ r with persister := .redis { s with failure := ← Input.text j "message" } },
        .obj [("ok", .bool true)])
    | _ => .error "no redis installed"
  | "redis_set" =>
    match r.persister with
    | .redis s =>
      let e : KeyEntry := { key := ← Input.text j "key", value := ← Input.text j "value" }
      pure ({ r with persister := .redis (s.set e) }, .obj [("ok", .bool true)])
    | _ => .error "no redis installed"
  | "redis_del" =>
    match r.persister with
    | .redis s => pure ({ r with persister := .redis (s.delete (← Input.text j "key")) },
        .obj [("ok", .bool true)])
    | _ => .error "no redis installed"
  | "run_loop" =>
    if maxLoopInterval < (← Input.int j "interval_ms") then .error "interval_ms must be at most 20"
    else withTable r ((r.table.cleanup r.now).1, .obj [("ok", .bool true)])
  | _ => unknownStep "cooldown" j

/-- The default lengths of a request. -/
def cooldownDefaults (j : Json) : Input CooldownDefaults := do
  let d ← Input.object j "defaults"
  pure { symbol := ← Input.duration d "symbol_ms", trader := ← Input.duration d "trader_ms",
         postMerge := ← Input.duration d "post_merge_ms" }

/-- `cooldown`: a table with its persister, driven by steps. -/
def cooldown (j : Json) : Input Json := do
  let defaults ← cooldownDefaults j
  let now ← startOf j
  let persister ← match Input.arg? j "persister", Input.arg? j "redis" with
    | some p, _ => do
      let load ← (← Input.list p "load").mapM Cooldown.ofJson
      pure (CooldownPersister.recording load (← Input.text p "load_error"))
    | none, some rj => do
      let seed ← (← Input.list rj "seed").mapM KeyEntry.ofJson
      pure (CooldownPersister.redis (seed.foldl KeyStore.set {}))
    | none, none => pure .none
  let writer : WriterState := match persister with
    | .none => .absent
    | _ => .running
  let init : CooldownRun := { now := now, table := { defaults := defaults, writer := writer },
                              persister := persister }
  pure (stepsAnswer (runSteps cooldownStep init (← Input.list j "ops")).2)

end Command

end TradeLedger
