import TradeLedger.Position.Manager
import TradeLedger.Reconcile.Run
import TradeLedger.Stream.Connection
import TradeLedger.Venue.Weight
import TradeLedger.Venue.ServerClock
import TradeLedger.Notify.Notifier
import TradeLedger.Monitor.Metrics
import TradeLedger.Time.Civil
/-!
# Bodies of the admin API

The admin API answers with JSON: times as RFC 3339 text in UTC, durations in nanoseconds; a
trade and a reconciliation run under their field names, the merged ids `null` when none; the
other bodies under snake-case names, without their empty parts. JSON has no NaN or infinities,
and a time is written only with a four-digit year; a body holding another value cannot be
written, and the encoder says why.

## Main definitions

* `timeBody`, `floatBody`: a time and a float, or why they cannot be written.
* `Trade.body`, `Report.body`, `Metrics.body`: the bodies of the routes.
-/

namespace TradeLedger

/-- A time as the API writes it, if its year has four digits. -/
def timeBody (t : Instant) : Except String Json := Json.str <$> Instant.jsonText? t

/-- A float as the API writes it, unless it is NaN or infinite. -/
def floatBody (x : Float) : Except String Json :=
  match Float.toJsonText? x with
  | some t => .ok (.num t)
  | none => .error ("json: unsupported value: " ++ Binary64.fixedText 0 (Binary64.ofFloat x))

/-- A trade under its field names. -/
def Trade.body (t : Trade) : Except String Json := do
  pure (.obj [("ID", .str t.id), ("TraderID", .str t.traderId), ("Symbol", .str t.symbol),
    ("Side", .str t.side.text), ("Size", ← floatBody t.size),
    ("EntryPrice", ← floatBody t.entryPrice), ("ExitPrice", ← floatBody t.exitPrice),
    ("RealizedPnL", ← floatBody t.realizedPnl), ("Status", .str t.status.text),
    ("MergedIntoTradeID", .str t.mergedIntoTradeId),
    ("MergedTradeIDs", if t.mergedTradeIds.isEmpty then .null else Json.ofStrings t.mergedTradeIds),
    ("Reason", .str t.reason), ("ExchangeOrderID", .str t.exchangeOrderId),
    ("ClientOrderID", .str t.clientOrderId), ("CloseOrderID", .str t.closeOrderId),
    ("RawResponse", .str t.rawResponse), ("EntryFilledQty", ← floatBody t.entryFilledQty),
    ("EntryOrderStatus", .str t.entryOrderStatus), ("ExitFilledQty", ← floatBody t.exitFilledQty),
    ("ExitOrderStatus", .str t.exitOrderStatus), ("LastEventAt", Json.ofInt t.lastEventAt),
    ("Version", Json.ofInt t.version), ("ReconciledCloseID", .str t.reconciledCloseId),
    ("ReconciledAt", ← timeBody t.reconciledAt), ("CreatedAt", ← timeBody t.createdAt),
    ("UpdatedAt", ← timeBody t.updatedAt), ("ClosedAt", ← timeBody t.closedAt)])

def Position.body (p : Position) : Except String Json := do
  pure (.obj [("trader_id", .str p.traderId), ("symbol", .str p.symbol),
    ("side", .str p.side.text), ("size", ← floatBody p.size),
    ("entry_price", ← floatBody p.entryPrice), ("mark_price", ← floatBody p.markPrice),
    ("unrealized_pnl", ← floatBody p.unrealizedPnl), ("trade_ids", Json.ofStrings p.tradeIds),
    ("primary_trade_id", .str p.primaryTradeId), ("opened_at", ← timeBody p.openedAt)])

def Conflict.body (c : Conflict) : Except String Json := do
  pure (.obj [("new_trade_id", .str c.newTradeId), ("trader_id", .str c.traderId),
    ("symbol", .str c.symbol), ("side", .str c.side.text), ("existing", ← c.existing.body),
    ("type", .str c.type.text), ("action", .str c.action.text)])

/-- A cooldown entry: its trader and reason only when set. -/
def Cooldown.body (c : Cooldown) : Except String Json := do
  pure (.obj ([("scope", .str c.scope.text), ("symbol", .str c.symbol)] ++
    (if c.traderId.isEmpty then [] else [("trader_id", .str c.traderId)]) ++
    [("end_time", ← timeBody c.endTime), ("duration", Json.ofInt c.duration)] ++
    (if c.reason.isEmpty then [] else [("reason", .str c.reason)]) ++
    [("remaining", Json.ofInt c.remaining)]))

/-- An admission outcome without its empty parts. -/
def Outcome.body (o : Outcome) : Except String Json := do
  let conflict ← match o.conflict with
    | some c => do pure [("conflict", ← c.body)]
    | none => pure []
  let cooldown ← match o.cooldown with
    | some c => do pure [("cooldown", ← c.body)]
    | none => pure []
  pure (.obj ([("trade_id", .str o.tradeId), ("action", .str o.action.text),
    ("status", .str o.status.text)] ++
    (if o.primaryTradeId.isEmpty then [] else [("primary_trade_id", .str o.primaryTradeId)]) ++
    conflict ++ cooldown ++
    (if o.degraded then [("degraded", .bool true)] else []) ++
    (if o.reason.isEmpty then [] else [("reason", .str o.reason)])))

def Correction.body (c : Correction) : Except String Json := do
  pure (.obj [("trade_id", .str c.tradeId), ("close_id", .str c.closeId),
    ("old_pnl", ← floatBody c.oldPnl), ("new_pnl", ← floatBody c.newPnl),
    ("relaxed", .bool c.relaxed)])

/-- A reconciliation report: the lookback in nanoseconds, corrections only when there are
some. -/
def Report.body (rep : Report) : Except String Json := do
  let corrections ← rep.corrections.mapM Correction.body
  pure (.obj ([("run_id", .str rep.runId), ("started_at", ← timeBody rep.startedAt),
    ("finished_at", ← timeBody rep.finishedAt), ("lookback", Json.ofInt rep.lookback),
    ("dry_run", .bool rep.dryRun), ("examined", Json.ofNat rep.examined),
    ("matched", Json.ofNat rep.matched), ("relaxed", Json.ofNat rep.relaxed),
    ("updated", Json.ofNat rep.updated), ("unmatched", Json.ofNat rep.unmatched),
    ("failed", Json.ofNat rep.failed)] ++
    (if corrections.isEmpty then [] else [("corrections", .arr corrections)])))

/-- A recorded reconciliation run under its field names, the lookback in nanoseconds. -/
def RunRow.body (r : RunRow) : Except String Json := do
  pure (.obj [("ID", .str r.id), ("StartedAt", ← timeBody r.startedAt),
    ("FinishedAt", ← timeBody r.finishedAt),
    ("Lookback", Json.ofInt (r.lookbackSeconds * Duration.perSecond)),
    ("DryRun", .bool r.dryRun), ("Examined", Json.ofNat r.examined),
    ("Matched", Json.ofNat r.matched), ("Updated", Json.ofNat r.updated),
    ("Unmatched", Json.ofNat r.unmatched), ("Failed", Json.ofNat r.failed)])

/-- A stream connection's status: no socket was ever connected, so its connection and pong
times are unset. -/
def Connection.statusBody (c : Connection) : Except String Json := do
  let expires := match c.keys with
    | some k => k.expiresAt
    | none => none
  pure (.obj ([("name", .str c.config.name), ("state", .str c.state.text),
    ("attempts", Json.ofNat c.attempts), ("consecutive_errors", Json.ofNat c.consecutiveErrors),
    ("window_count", Json.ofNat 0), ("window_limit", Json.ofInt c.config.maxMessagesPerSecond)] ++
    (if c.nextDelay > 0 then [("next_delay", .str (Duration.text c.nextDelay))] else []) ++
    [("connected_at", ← timeBody none), ("last_pong", ← timeBody none)] ++
    (if c.lastError.isEmpty then [] else [("last_error", .str c.lastError)]) ++
    (match c.fatal with
      | some f => [("fatal", .str f)]
      | none => []) ++
    [("listen_key_expires_at", ← timeBody expires)]))

def LatencyStats.body (s : LatencyStats) : Except String Json := do
  pure (.obj [("min", ← floatBody s.min), ("max", ← floatBody s.max),
    ("avg", ← floatBody s.avg), ("p50", ← floatBody s.p50), ("p95", ← floatBody s.p95),
    ("p99", ← floatBody s.p99), ("count", Json.ofNat s.count)])

/-- A snapshot of the service's metrics at an instant. -/
def Metrics.body (m : Metrics) (now : Instant) : Except String Json := do
  pure (.obj [("dispatch_latency", ← m.dispatchLatency.stats.body),
    ("sync_latency", ← m.syncLatency.stats.body),
    ("conflict_latency", ← m.conflictLatency.stats.body),
    ("frames_received", Json.ofNat m.framesReceived), ("reconnects", Json.ofNat m.reconnects),
    ("throttled_waits", Json.ofNat m.throttledWaits),
    ("events_dispatched", Json.ofNat m.eventsDispatched),
    ("decode_errors", Json.ofNat m.decodeErrors), ("handler_errors", Json.ofNat m.handlerErrors),
    ("fills_applied", Json.ofNat m.fillsApplied), ("fills_duplicate", Json.ofNat m.fillsDuplicate),
    ("fills_unresolved", Json.ofNat m.fillsUnresolved),
    ("fallback_hits", Json.ofNat m.fallbackHits), ("merges", Json.ofNat m.merges),
    ("rejects", Json.ofNat m.rejects), ("degraded_admits", Json.ofNat m.degradedAdmits),
    ("reconcile_updates", Json.ofNat m.reconcileUpdates),
    ("reconcile_failures", Json.ofNat m.reconcileFailures),
    ("notifications_dropped", Json.ofNat m.notificationsDropped),
    ("goroutine_count", Json.ofNat 0), ("heap_alloc_bytes", Json.ofNat 0),
    ("timestamp", ← timeBody now)])

/-- A notifier's counters. -/
def NotifyStats.body (s : NotifyStats) : Json :=
  .obj [("queued", Json.ofNat s.queued), ("sent", Json.ofNat s.sent),
    ("failed", Json.ofNat s.failed), ("dropped", Json.ofNat s.dropped)]

/-- A venue client's weight usage and clock estimate. -/
def venueBody (w : WeightUsage) (c : ServerClock) : Except String Json := do
  pure (.obj [("weight", .obj [("used", Json.ofInt w.used), ("limit", Json.ofInt w.limit),
      ("percent", ← floatBody w.percent), ("window_ends", ← timeBody w.windowEnds)]),
    ("clock", .obj [("offset_ms", Json.ofInt (Duration.toMs c.offset)),
      ("last_sync", ← timeBody c.lastSync)])])

/-- The price cache: every price by its key, and the statistics at an instant. -/
def PriceCache.body (c : PriceCache) (now : Instant) : Except String Json := do
  let s := c.stats now
  let prices ← c.entries.mapM fun e => do pure (e.1, ← floatBody e.2.price)
  pure (.obj [("prices", .obj prices),
    ("stats", .obj [("total_items", Json.ofNat s.totalItems), ("throttled", Json.ofNat s.throttled),
      ("oldest_age", Json.ofInt s.oldestAge)])])

/-- The balance state: its lines sorted by asset, and when the last snapshot was applied
(the zero instant before any). -/
def Balances.body (b : Balances) (syncedAt : Instant) : Except String Json := do
  let lines ← b.snapshot.mapM fun a => do
    pure (Json.obj [("asset", .str a.asset), ("free", ← floatBody a.free),
      ("locked", ← floatBody a.locked)])
  pure (.obj [("balances", .arr lines),
    ("last_sync", ← timeBody (if b.synced then syncedAt else none))])

end TradeLedger
