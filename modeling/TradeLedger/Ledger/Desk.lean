import TradeLedger.Ledger.FaultPlan
import TradeLedger.Position.Snapshot
import TradeLedger.Cooldown.Table
import TradeLedger.Market.Prices
import TradeLedger.Market.Balances
import TradeLedger.Monitor.Metrics
import TradeLedger.Reconcile.Engine
/-!
# The trading desk

The services that keep the ledger work on one shared state, the desk: the store, the cached
position snapshots, the cooldown table, the mark prices, the balances, the metrics, the
reconciler and one clock. A step either answers or fails, keeping every change made before.
Services reach the store only through `Desk.read` and `Desk.write`, which first count the call
against the staged failures.

## Main definitions

* `Desk`, `DeskM`: the desk, and its steps.
* `Desk.read`, `Desk.write`: the store's calls.
-/

namespace TradeLedger

/-- What admission does when the positions cannot be read: admit the trade unchecked, or
reject it. -/
inductive FailurePolicy where
  | failOpen
  | failClosed
  deriving Repr, DecidableEq, Inhabited

/-- The tuning of the desk's services. -/
structure DeskConfig where
  policy : FailurePolicy := .failOpen
  /-- how far back the payload search looks -/
  fallbackWindow : Duration := 24 * 3600 * Duration.perSecond
  /-- how many payloads it looks at -/
  fallbackLimit : Int := 200
  /-- the least time between two price updates of a symbol -/
  markPriceMinInterval : Duration := 0
  deriving Repr, Inhabited

/-- The shared state of the services. -/
structure Desk where
  now : Instant
  store : Store := {}
  plan : FaultPlan := {}
  snapshots : List (String × Snapshot) := []
  cooldowns : Cooldowns := {}
  prices : PriceCache := {}
  balances : Balances := {}
  metrics : Metrics := {}
  config : DeskConfig := {}
  reconciler : Reconciler := {}
  /-- the traders whose snapshots were dropped, in order -/
  invalidated : List String := []
  deriving Inhabited

/-- A step over the desk that may fail; changes made before a failure stay. -/
abbrev DeskM := ExceptT Fault (StateM Desk)

namespace Desk

/-- The desk's clock. -/
def clock : DeskM Instant := do return (← get).now

/-- Change the metrics. -/
def tally (f : Metrics → Metrics) : DeskM Unit :=
  modify fun d => { d with metrics := f d.metrics }

/-- Count a store call against the staged failures. -/
def staged (m : StoreMethod) : DeskM Unit := do
  let d ← get
  let (plan, failure) := d.plan.trip m
  set { d with plan := plan }
  match failure with
  | some f => throw f
  | none => pure ()

/-- A store call that reads. -/
def read {α : Type} (m : StoreMethod) (op : Store → Except Fault α) : DeskM α := do
  staged m
  match op (← get).store with
  | .ok a => pure a
  | .error f => throw f

/-- A store call that writes. -/
def write {α : Type} (m : StoreMethod) (op : Store → Except Fault (α × Store)) : DeskM α := do
  staged m
  match op (← get).store with
  | .ok (a, s) =>
    modify fun d => { d with store := s }
    pure a
  | .error f => throw f

/-- A store write with no answer. -/
def change (m : StoreMethod) (op : Store → Except Fault Store) : DeskM Unit :=
  write m fun s => (op s).map fun s => ((), s)

/-- A computation that may stop outright. -/
def exact {α : Type} (e : Exact α) : DeskM α :=
  match e with
  | .ok a => pure a
  | .error m => throw (Fault.panic m)

/-- Run a step, prefixing `context` to its failure. -/
def within {α : Type} (context : String) (act : DeskM α) : DeskM α :=
  tryCatch act fun f => throw (f.wrap context)

/-- Run a step and give its failure as a value; a stop still stops. -/
def attempt {α : Type} (act : DeskM α) : DeskM (Except Fault α) :=
  tryCatch (Except.ok <$> act) fun f => if f.kind == .panic then throw f else pure (.error f)

/-- Run a step whose failure is only noted; a stop still stops. -/
def ignoring (act : DeskM Unit) : DeskM Unit :=
  tryCatch act fun f => if f.kind == .panic then throw f else pure ()

/-- Drop a trader's cached snapshot. -/
def invalidate (trader : String) : DeskM Unit :=
  modify fun d => { d with snapshots := d.snapshots.filter (·.1 != trader),
                           invalidated := d.invalidated ++ [trader] }

end Desk

end TradeLedger
