import TradeLedger.Command.MarketSteps
import TradeLedger.Command.Pure
import TradeLedger.Ledger.Sync
import TradeLedger.Admin.Server
/-!
# Store and service steps of the ledger command

One ledger with the services around it, driven by steps: store steps that read and write rows
directly, bypassing the staged failures; staged store failures; execution reports and frames
through the sync handler; admission steps of the position manager. A step of a service that
fails answers the failure's kind and text, and an execution report or frame lists the traders
whose snapshots it dropped.

## Main definitions

* `LedgerRun`: the desk and what the steps minted and reported.
* `deskStep`: a service step.
-/

namespace TradeLedger

def Conflict.toJson (c : Conflict) : Json :=
  .obj [("new_trade_id", .str c.newTradeId), ("trader_id", .str c.traderId),
    ("symbol", .str c.symbol), ("side", .str c.side.text), ("existing", c.existing.toJson),
    ("type", .str c.type.text), ("action", .str c.action.text)]

/-- The JSON form of an outcome, every member present. -/
def Outcome.toJson (o : Outcome) : Json :=
  .obj [("trade_id", .str o.tradeId), ("action", .str o.action.text),
    ("status", .str o.status.text), ("primary_trade_id", .str o.primaryTradeId),
    ("conflict", match o.conflict with
      | some c => c.toJson
      | none => .null),
    ("cooldown", match o.cooldown with
      | some c => c.toJson
      | none => .null),
    ("degraded", .bool o.degraded), ("reason", .str o.reason)]

def NewTrade.ofJson (j : Json) : Input NewTrade := do
  pure { tradeId := ← Input.text j "trade_id", traderId := ← Input.text j "trader_id",
         symbol := ← Input.text j "symbol", side := TradeSide.ofText (← Input.text j "side"),
         size := ← Input.float j "size", entryPrice := ← Input.float j "entry_price" }

/-- The counters of the ledger's services. -/
def Metrics.countersJson (m : Metrics) : Json :=
  .obj [("fills_applied", Json.ofNat m.fillsApplied), ("fills_duplicate", Json.ofNat m.fillsDuplicate),
    ("fills_unresolved", Json.ofNat m.fillsUnresolved), ("fallback_hits", Json.ofNat m.fallbackHits),
    ("merges", Json.ofNat m.merges), ("rejects", Json.ofNat m.rejects),
    ("degraded_admits", Json.ofNat m.degradedAdmits),
    ("reconcile_updates", Json.ofNat m.reconcileUpdates),
    ("reconcile_failures", Json.ofNat m.reconcileFailures),
    ("frames_received", Json.ofNat m.framesReceived),
    ("events_dispatched", Json.ofNat m.eventsDispatched),
    ("decode_errors", Json.ofNat m.decodeErrors), ("handler_errors", Json.ofNat m.handlerErrors)]

namespace Command

/-- The ledger command's state: the desk, and how many row and run ids were made up. -/
structure LedgerRun where
  desk : Desk
  minted : Nat := 0
  /-- how many run ids the ledger has made up -/
  runsStarted : Nat := 0
  /-- how the admin API is to be built -/
  api : Json := .obj []
  /-- the admin API, once a step needed it -/
  admin : Option AdminServer := none
  /-- how many requests the admin API was sent -/
  requests : Nat := 0
  /-- the machine's clock in unix milliseconds, which the admin API checks tokens against -/
  machineMs : Int := 0
  deriving Inhabited

/-- The `n`-th id the store makes up for a row created without one. -/
def mintedId (n : Nat) : String := "00000000-0000-4000-8000-" ++ hexDigits 12 n

/-- How a made-up id is shown: only its length is fixed. -/
def mintedIdShown : String := "<uuid:36>"

/-- The answer for a failure. -/
def deskFault (f : Fault) : Json := errorAnswer f.kind.name f.text

def runDesk {α : Type} (act : DeskM α) (d : Desk) : Except Fault α × Desk := (act.run).run d

/-- A service step's answer. -/
def deskStep {α : Type} (r : LedgerRun) (act : DeskM α) (ok : α → Json) : LedgerRun × Json :=
  match runDesk act r.desk with
  | (.ok a, d) => ({ r with desk := d }, ok a)
  | (.error f, d) => ({ r with desk := d }, deskFault f)

/-- A store step that reads, past the staged failures. -/
def storeRead {α : Type} (r : LedgerRun) (op : Store → Except Fault α) (ok : α → Json) :
    LedgerRun × Json :=
  match op r.desk.store with
  | .ok a => (r, ok a)
  | .error f => (r, deskFault f)

/-- A store step that writes, past the staged failures. -/
def storeWrite {α : Type} (r : LedgerRun) (op : Store → Except Fault (α × Store)) (ok : α → Json) :
    LedgerRun × Json :=
  match op r.desk.store with
  | .ok (a, s) => ({ r with desk := { r.desk with store := s } }, ok a)
  | .error f => (r, deskFault f)

/-- A store write with the answer `{"ok": true}`. -/
def storeChange (r : LedgerRun) (op : Store → Except Fault Store) : LedgerRun × Json :=
  storeWrite r (fun s => (op s).map fun s => ((), s)) fun _ => okAnswer

def tradesAnswer (ts : List Trade) : Json := .obj [("trades", .arr (ts.map Trade.toJson))]

def tradeAnswer (t : Trade) : Json := .obj [("trade", t.toJson)]

def outcomeAnswer (o : Outcome) : Json := .obj [("outcome", o.toJson)]

/-- The traders whose snapshots were dropped, as a member. -/
def invalidatedMember (d : Desk) : String × Json := ("invalidated", Json.ofStrings d.invalidated)

/-- Every trade of the store, by id, each read on its own; the first that does not read fails
the listing. -/
def allTrades (s : Store) : Except Fault (List Trade) :=
  (((s.rows.map (·.trade.id)).mergeSort fun a b => decide (a ≤ b))).mapM s.get

def StagedFailure.ofJson (j : Json) : Input StagedFailure := do
  pure { error := ← Input.text j "error", times := ← Input.nat j "times", skip := ← Input.nat j "skip" }

/-- Stage and clear store failures. -/
def stageFaults (plan : FaultPlan) (j : Json) : Input FaultPlan := do
  let plan := if ← Input.flag j "clear" then {} else plan
  (← Input.members j "set").foldlM (fun (p : FaultPlan) (name, spec) => do
    match StoreMethod.ofName? name with
    | some m => pure (p.stage m (← StagedFailure.ofJson spec))
    | none => .error ("unknown store method " ++ quoteText name)) plan

/-- Hand one decoded event to its handler: its kind, and the failure if it failed. -/
def eventResult (d : Desk) (e : Event) : Desk × Json :=
  let kind := ("kind", Json.str e.kind.text)
  match Desk.handleEvent e with
  | none => (d, .obj [kind])
  | some act =>
    match runDesk act d with
    | (.ok (), d) => (d, .obj [kind])
    | (.error f, d) => (d, .obj [kind, ("error", .str f.kind.name), ("message", .str f.text)])

def storeStep? (r : LedgerRun) (j : Json) : Option (Input (LedgerRun × Json)) :=
  let now := r.desk.now
  match Input.text j "op" with
  | .ok "create" => some do
    let t ← Trade.ofJson (← Input.object j "trade")
    let minted := t.id.isEmpty
    let r' := if minted then { r with minted := r.minted + 1 } else r
    pure (storeWrite r' (fun s => s.create now (mintedId r.minted) t) fun t =>
      tradeAnswer (if minted then { t with id := mintedIdShown } else t))
  | .ok "get" => some do
    let id ← Input.text j "id"
    pure (storeRead r (·.get id) tradeAnswer)
  | .ok "trades" => some (pure (r, match allTrades r.desk.store with
      | .ok ts => tradesAnswer ts
      | .error f => deskFault f))
  | .ok "find_by_order" => some do
    let id ← Input.text j "order_id"
    pure (storeRead r (·.findByOrder id) tradeAnswer)
  | .ok "live" => some do
    let trader ← Input.text j "trader_id"
    pure (storeRead r (·.live trader) tradesAnswer)
  | .ok "trades_by_trader" => some do
    let trader ← Input.text j "trader_id"
    let limit ← Input.int j "limit"
    pure (storeRead r (·.byTrader trader limit) tradesAnswer)
  | .ok "closed" => some do
    let trader ← Input.text j "trader_id"
    let since ← Input.time j "since"
    pure (storeRead r (·.closedSince trader since) tradesAnswer)
  | .ok "recent_raw" => some do
    let since ← Input.time j "since"
    let limit ← Input.int j "limit"
    pure (storeRead r (·.recentRaw since limit) tradesAnswer)
  | .ok "live_traders" => some (pure (storeRead r Store.liveTraders fun ts =>
      .obj [("traders", Json.ofStrings ts)]))
  | .ok "backfill" => some do
    let leg : Leg := if (← Input.text j "leg") == "exit" then .exit else .entry
    let id ← Input.text j "id"
    let orderId ← Input.text j "order_id"
    pure (storeChange r fun s => s.backfill now id leg orderId)
  | .ok "mark_status" => some do
    let id ← Input.text j "id"
    let status := TradeStatus.ofText (← Input.text j "status")
    let reason ← Input.text j "reason"
    pure (storeChange r fun s => s.markStatus now id status reason)
  | .ok "apply_merge" => some do
    let primary ← Input.text j "primary_id"
    let size ← Input.float j "size"
    let entry ← Input.float j "entry_price"
    let absorbed ← Input.text j "absorbed_id"
    pure (storeChange r fun s => s.applyMerge now primary size entry absorbed)
  | .ok "mark_merged" => some do
    let id ← Input.text j "id"
    let primary ← Input.text j "primary_id"
    let reason ← Input.text j "reason"
    pure (storeChange r fun s => s.markMerged now id primary reason)
  | .ok "close_trade" => some do
    let id ← Input.text j "id"
    let exit ← Input.float j "exit_price"
    let closedAt ← Input.time j "closed_at"
    let reason ← Input.text j "reason"
    pure (storeChange r fun s => s.closeTrade now id exit closedAt reason)
  | .ok "update_reconciled" => some do
    let id ← Input.text j "id"
    let pnl ← Input.float j "pnl"
    let closeId ← Input.text j "close_id"
    let stamp ← Input.time j "at"
    pure (storeChange r fun s => s.updateReconciled now id pnl closeId stamp)
  | .ok "update_fill" => some do
    let t ← Trade.ofJson (← Input.object j "trade")
    pure (storeWrite r (fun s => s.updateFill now t) fun t =>
      .obj [("version", Json.ofInt t.version), ("updated_at", Json.ofTime t.updatedAt)])
  | .ok "close_db" => some (pure ({ r with desk := { r.desk with
      store := { r.desk.store with closed := true } } }, okAnswer))
  | _ => none

/-- A step of the sync handler or the position manager. -/
def serviceStep? (r : LedgerRun) (j : Json) : Option (Input (LedgerRun × Json)) :=
  match Input.text j "op" with
  | .ok "faults" => some do
    let plan ← stageFaults r.desk.plan j
    pure ({ r with desk := { r.desk with plan := plan } },
      .obj [("faults", Json.ofStrings plan.pendingNames)])
  | .ok "order" => some do
    let o ← OrderUpdate.ofJson (← Input.object j "order")
    let eventTime ← Input.int j "event_time"
    let d := { r.desk with invalidated := [] }
    match runDesk (Desk.handleOrder eventTime o) d with
    | (.ok (), d) => pure ({ r with desk := d }, .obj [("ok", .bool true), invalidatedMember d])
    | (.error f, d) => pure ({ r with desk := d }, .obj [("error", .str f.kind.name),
        ("message", .str f.text), invalidatedMember d])
  | .ok "event" => some do
    let decoded := Frame.decode (← frameBytes j)
    let (d, results) := decoded.events.foldl (fun (acc : Desk × List Json) e =>
      let (d, res) := eventResult acc.1 e
      (d, acc.2 ++ [res])) ({ r.desk with invalidated := [] }, [])
    pure ({ r with desk := d }, .obj [("results", .arr results),
      ("errors", .arr (decoded.errors.map DecodeError.toJson)), invalidatedMember d])
  | .ok "dispatch" => some do
    let bytes ← frameBytes j
    let (d, decoded) := Desk.syncDispatcher.dispatch { r.desk with invalidated := [] } bytes
    pure ({ r with desk := d }, .obj [("published", Json.ofNat decoded.events.length),
      ("errors", .arr (decoded.errors.map DecodeError.toJson)), invalidatedMember d])
  | .ok "empty_events" => some (pure (r, .obj [("errors", .arr [.null, .null, .null]),
      ("same_balances", .bool true), ("same_prices", .bool true)]))
  | .ok "process" => some do
    let nt ← NewTrade.ofJson (← Input.object j "trade")
    pure (deskStep r (Desk.processTrade nt) outcomeAnswer)
  | .ok "admit" => some do
    let id ← Input.text j "id"
    pure (deskStep r (Desk.admitTrade id) outcomeAnswer)
  | .ok "check_conflict" => some do
    let trader ← Input.text j "trader_id"
    let symbol ← Input.text j "symbol"
    let side := TradeSide.ofText (← Input.text j "side")
    let newId ← Input.text j "new_trade_id"
    pure (deskStep r (Desk.checkConflict trader symbol side newId) fun c =>
      .obj [("conflict", match c with
        | some c => c.toJson
        | none => .null)])
  | .ok "handle_conflict" => some do
    let trader ← Input.text j "trader_id"
    let symbol ← Input.text j "symbol"
    let side := TradeSide.ofText (← Input.text j "side")
    let newId ← Input.text j "new_trade_id"
    let action ← Input.text j "action"
    let nt ← NewTrade.ofJson (← Input.object j "trade")
    let act : DeskM Outcome := do
      let c ← Desk.checkConflict trader symbol side newId
      let c := if action.isEmpty then c else c.map fun c => { c with action := Action.ofText action }
      Desk.resolveConflict c nt
    pure (deskStep r act outcomeAnswer)
  | .ok "replace" => some do
    let trader ← Input.text j "trader_id"
    let symbol ← Input.text j "symbol"
    let side := TradeSide.ofText (← Input.text j "side")
    let newId ← Input.text j "new_trade_id"
    pure (deskStep r (Desk.replaceTrade trader symbol side newId) outcomeAnswer)
  | .ok "positions" => some do
    let trader ← Input.text j "trader_id"
    pure (deskStep r (Desk.positions trader) fun ps =>
      .obj [("positions", .arr (ps.map Position.toJson))])
  | .ok "invalidate" => some do
    let trader ← Input.text j "trader_id"
    pure (deskStep r (Desk.invalidate trader) fun _ => okAnswer)
  | .ok "metrics" => some (pure (r, r.desk.metrics.countersJson))
  | _ => none

end Command

end TradeLedger
