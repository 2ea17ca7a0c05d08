import TradeLedger.Position.Manager
import TradeLedger.Trade.Fill
import TradeLedger.Trade.Resolve
import TradeLedger.Event.Dispatch
import TradeLedger.Text.Fold
/-!
# Keeping the ledger in step with the venue

Execution reports are folded into the trades they belong to. The trade is found by the order's
venue id, then by its client id; failing both, the raw payloads of recent trades are searched,
and a trade found that way gets the venue id recorded. The fill is written with the trade's
version, retried once on a fresh read. Account snapshots update the balances, and price ticks
the mark prices at most once per interval per symbol.

## Main definitions

* `Desk.resolveOrder`: the trade and leg of a report.
* `Desk.handleOrder`, `Desk.handleEvent`: the handlers.
-/

namespace TradeLedger

namespace Desk

/-- The first trade found by one of the ids, skipping empty ids and ids no trade has. -/
def findByIds : List String → DeskM (Option Trade)
  | [] => pure none
  | id :: rest => do
    if id.isEmpty then findByIds rest
    else
      match ← attempt (read .findByOrder (·.findByOrder id)) with
      | .ok t => pure (some t)
      | .error f => if f.kind == .notFound then findByIds rest else throw f

/-- Whether a trade's payload names the order: the symbols agree ignoring case (or one is
missing) and the payload holds the venue or client id as a whole token. -/
def payloadNames (o : OrderUpdate) (t : Trade) : Bool :=
  (o.symbol.isEmpty || t.symbol.isEmpty || String.equalFold t.symbol o.symbol) &&
    (containsId t.rawResponse o.orderId || containsId t.rawResponse o.clientOrderId)

/-- The newest recent trade whose payload names the order. -/
def scanPayloads (o : OrderUpdate) : DeskM Trade := do
  let d ← get
  let since := d.now.addDuration (-d.config.fallbackWindow)
  let recent ← read .recentRaw (·.recentRaw since d.config.fallbackLimit)
  match recent.find? (payloadNames o) with
  | some t => pure t
  | none => throw Store.notFound

/-- The trade and leg of an execution report. A trade found through its payload gets the
venue id recorded; a failure to record it is only noted. -/
def resolveOrder (o : OrderUpdate) : DeskM (Trade × Leg) := do
  match ← findByIds [o.orderId, o.clientOrderId] with
  | some t => pure (t, legOf t o.orderId o.clientOrderId)
  | none =>
    let t ← scanPayloads o
    let leg := inferLeg t o.side
    tally fun m => { m with fallbackHits := m.fallbackHits + 1 }
    if !o.orderId.isEmpty then
      let now ← clock
      ignoring (change .backfill fun s => s.backfill now t.id leg o.orderId)
    pure (t, leg)

/-- Fold a report into a trade with at most `attempts` versioned writes, reading the trade
again after each lost write. -/
def applyOrder (o : OrderUpdate) (leg : Leg) (eventTime : Int) : Nat → Trade → DeskM Unit
  | 0, t => throw (Store.staleWrite.wrap ("sync trade " ++ t.id ++ " order " ++ o.orderId ++ ": "))
  | n + 1, t => do
    let d := decideFill t leg o eventTime
    if !d.apply then
      tally fun m => { m with fillsDuplicate := m.fillsDuplicate + 1 }
      return
    let now ← clock
    let (t', tr) := applyFill t leg o d eventTime now.toMs
    match ← attempt (write .updateFill fun s => s.updateFill now t') with
    | .ok written =>
      tally fun m => { m with fillsApplied := m.fillsApplied + 1 }
      if tr == .opened || tr == .closed then invalidate written.traderId
    | .error f =>
      if f.kind == .staleWrite then
        let fresh ← within "reload trade after stale write: " (read .getTrade (·.get t.id))
        applyOrder o leg eventTime n fresh
      else throw f

/-- Record an execution report; the event time falls back to the order's trade time. -/
def handleOrder (eventTime : Int) (o : OrderUpdate) : DeskM Unit := do
  tally fun m => { m with syncLatency := m.syncLatency.time }
  let eventTime := if eventTime == 0 then o.tradeTime else eventTime
  match ← attempt (resolveOrder o) with
  | .error f =>
    if f.kind == .notFound then tally fun m => { m with fillsUnresolved := m.fillsUnresolved + 1 }
    else throw f
  | .ok (t, leg) => applyOrder o leg eventTime 2 t

/-- Merge an account snapshot into the balances. -/
def handleAccount (eventTime : Int) (a : AccountSnapshot) : DeskM Unit :=
  modify fun d => { d with balances := (d.balances.apply eventTime
    (a.balances.map fun b => { asset := b.asset, free := b.free, locked := b.locked })).1 }

/-- Take a price tick, at most once per interval per key. -/
def handleTicker (t : Ticker) : DeskM Unit :=
  modify fun d =>
    let key := if t.source == .last then lastPriceKey t.symbol else t.symbol
    { d with prices := (d.prices.setThrottled d.now key t.price d.config.markPriceMinInterval).1 }

/-- The handler of an event's kind; `none` for kinds without one. -/
def handleEvent (e : Event) : Option (DeskM Unit) :=
  match e.payload with
  | .order o => some (handleOrder e.eventTime o)
  | .account a => some (handleAccount e.eventTime a)
  | .ticker t => some (handleTicker t)
  | .listenKeyExpired => none

/-- The desk with its metrics, for the dispatcher. -/
instance : Metered Desk where
  metrics d := d.metrics
  setMetrics d m := { d with metrics := m }

/-- A desk step as a dispatcher handler. -/
def handler (act : DeskM Unit) (d : Desk) : Desk × Except String Unit :=
  match (act.run).run d with
  | (.ok (), d) => (d, .ok ())
  | (.error f, d) => (d, .error f.text)

/-- The dispatcher of the ledger's handlers: execution reports, account snapshots and price
ticks, in that order. -/
def syncDispatcher : Dispatcher Desk :=
  ((({} : Dispatcher Desk).register "order_update" "ledger-sync" fun d e =>
      match e.payload with
      | .order o => handler (handleOrder e.eventTime o) d
      | _ => (d, .ok ())).register "account_snapshot" "balances" fun d e =>
      match e.payload with
      | .account a => handler (handleAccount e.eventTime a) d
      | _ => (d, .ok ())).register "ticker" "prices" fun d e =>
      match e.payload with
      | .ticker t => handler (handleTicker t) d
      | _ => (d, .ok ())

end Desk

end TradeLedger
