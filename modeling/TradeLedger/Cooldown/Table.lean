import TradeLedger.Cooldown.Basic
/-!
# The cooldown table

All cooldown state: the entries by key, the default lengths, and the write-through log to a
persister. A check consults the scopes in order and answers the first live entry, evicting ended
entries on the way. Setting an entry never shortens a live one. Each kept change is queued for
the persister, in order, until it is closed; a restore loads entries without queueing them.

## Main definitions

* `Cooldowns`: the table.
* `Cooldowns.check`, `Cooldowns.setUntil`, `Cooldowns.restore`: its operations.
-/

namespace TradeLedger

/-- A call sent to the persister. -/
inductive PersistCall where
  | save (c : Cooldown)
  | delete (c : Cooldown)
  deriving Repr, Inhabited

/-- Whether changes reach a persister: there is none, it runs, or it was closed. -/
inductive WriterState where
  | absent
  | running
  | stopped
  deriving Repr, DecidableEq, Inhabited

/-- The cooldown table. -/
structure Cooldowns where
  entries : List (String × Cooldown) := []
  defaults : CooldownDefaults := {}
  writer : WriterState := .absent
  calls : List PersistCall := []
  deriving Repr, Inhabited

namespace Cooldowns

/-- The entry of a key. -/
def find? (b : Cooldowns) (k : String) : Option Cooldown :=
  (b.entries.find? (·.1 == k)).map (·.2)

/-- Set the entry of a key. -/
def put (b : Cooldowns) (k : String) (c : Cooldown) : Cooldowns :=
  { b with entries := (k, c) :: b.entries.filter (·.1 != k) }

/-- Remove the entry of a key. -/
def remove (b : Cooldowns) (k : String) : Cooldowns :=
  { b with entries := b.entries.filter (·.1 != k) }

/-- Queue a call for the persister, when one runs. -/
def persist (b : Cooldowns) (call : PersistCall) : Cooldowns :=
  if b.writer == .running then { b with calls := b.calls ++ [call] } else b

/-- The first live entry for a symbol and trader, in scope order. The trader scope is skipped
without a trader; ended entries met on the way are evicted. -/
def check (b : Cooldowns) (now : Instant) (symbol trader : String) :
    Cooldowns × Option Cooldown :=
  go b Scope.checkOrder
where
  /-- Consult the remaining scopes. -/
  go (b : Cooldowns) : List Scope → Cooldowns × Option Cooldown
    | [] => (b, none)
    | scope :: rest =>
      if scope == .symbolTrader && trader == "" then go b rest
      else
        let k := cooldownKey scope symbol trader
        match b.find? k with
        | none => go b rest
        | some c =>
          if c.endedAt now then go (b.remove k) rest
          else (b, some { c with remaining := Instant.sub c.endTime now })

/-- Install an entry ending at `endTime`. An existing entry that ends later is kept and
answered instead. Outside the trader scope the trader is dropped. -/
def setUntil (b : Cooldowns) (now : Instant) (scope : Scope) (symbol trader : String)
    (endTime : Instant) (reason : String) : Cooldowns × Cooldown :=
  let c : Cooldown :=
    { scope := scope, symbol := String.toUpperSimple symbol,
      traderId := if scope == .symbolTrader then trader else "",
      endTime := endTime, duration := Instant.sub endTime now, reason := reason }
  match b.find? c.key with
  | some prev =>
    if prev.endTime.toMs > c.endTime.toMs then
      (b, { prev with remaining := Instant.sub prev.endTime now })
    else ((b.put c.key c).persist (.save c), { c with remaining := c.duration })
  | none => ((b.put c.key c).persist (.save c), { c with remaining := c.duration })

/-- Install an entry lasting `d`, or the scope's default when `d` is not positive. -/
def setFor (b : Cooldowns) (now : Instant) (scope : Scope) (symbol trader : String)
    (d : Duration) (reason : String) : Cooldowns × Cooldown :=
  let default := match scope with
    | .symbol => b.defaults.symbol
    | .symbolTrader => b.defaults.trader
    | .postMerge => b.defaults.postMerge
    | .other _ => 0
  b.setUntil now scope symbol trader (now.addDuration (orDefault d default)) reason

/-- Remove one entry; whether there was one. -/
def clear (b : Cooldowns) (scope : Scope) (symbol trader : String) : Cooldowns × Bool :=
  let k := cooldownKey scope symbol trader
  match b.find? k with
  | some c => ((b.remove k).persist (.delete c), true)
  | none => (b, false)

/-- Evict ended entries; how many were removed. -/
def cleanup (b : Cooldowns) (now : Instant) : Cooldowns × Nat :=
  let live := b.entries.filter (fun e => !e.2.endedAt now)
  ({ b with entries := live }, b.entries.length - live.length)

/-- Live entries, filtered by symbol and by trader when given, sorted by key. An entry
without a trader passes the trader filter. -/
def active (b : Cooldowns) (now : Instant) (symbol trader : String) : List Cooldown :=
  let symbol := String.toUpperSimple symbol
  let keep (c : Cooldown) : Bool :=
    !c.endedAt now && (symbol == "" || c.symbol == symbol) &&
      (trader == "" || c.traderId == "" || c.traderId == trader)
  let live := (b.entries.map (·.2)).filter keep
  (live.map fun c => { c with remaining := Instant.sub c.endTime now }).mergeSort
    fun x y => decide (x.key ≤ y.key)

/-- Load persisted entries that are still live and end after any entry of the same key;
how many were taken. -/
def restore (b : Cooldowns) (now : Instant) (loaded : List Cooldown) : Cooldowns × Nat :=
  loaded.foldl (fun (acc : Cooldowns × Nat) c =>
    let (b, n) := acc
    if c.endedAt now then acc
    else match b.find? c.key with
      | some prev => if c.endTime.toMs > prev.endTime.toMs then
          (b.put c.key { c with remaining := 0 }, n + 1) else acc
      | none => (b.put c.key { c with remaining := 0 }, n + 1)) (b, 0)

/-- Stop sending changes to the persister; later changes stay in memory only. -/
def close (b : Cooldowns) : Cooldowns :=
  if b.writer == .running then { b with writer := .stopped } else b

end Cooldowns

end TradeLedger
