import TradeLedger.Command.Input
import TradeLedger.Trade.Fill
import TradeLedger.Event.Decode
/-!
# JSON forms of ledger values

Trades, execution reports and events as JSON objects, both ways where commands take them as
arguments. Member names are snake case; instants are unix milliseconds or `null` when unset. An
execution report's status is parsed from the venue's spelling unless `raw_status` keeps the text.

## Main definitions

* `Trade.ofJson`, `Trade.toJson`, `OrderUpdate.ofJson`: the JSON forms.
-/

namespace TradeLedger

def Trade.ofJson (j : Json) : Input Trade := do
  pure {
    id := ← Input.text j "id"
    traderId := ← Input.text j "trader_id"
    symbol := ← Input.text j "symbol"
    side := TradeSide.ofText (← Input.text j "side")
    size := ← Input.float j "size"
    entryPrice := ← Input.float j "entry_price"
    exitPrice := ← Input.float j "exit_price"
    realizedPnl := ← Input.float j "realized_pnl"
    status := TradeStatus.ofText (← Input.text j "status")
    mergedIntoTradeId := ← Input.text j "merged_into_trade_id"
    mergedTradeIds := ← Input.texts j "merged_trade_ids"
    reason := ← Input.text j "reason"
    exchangeOrderId := ← Input.text j "exchange_order_id"
    clientOrderId := ← Input.text j "client_order_id"
    closeOrderId := ← Input.text j "close_order_id"
    rawResponse := ← Input.text j "raw_response"
    entryFilledQty := ← Input.float j "entry_filled_qty"
    entryOrderStatus := ← Input.text j "entry_order_status"
    exitFilledQty := ← Input.float j "exit_filled_qty"
    exitOrderStatus := ← Input.text j "exit_order_status"
    lastEventAt := ← Input.int j "last_event_at"
    version := ← Input.int j "version"
    reconciledCloseId := ← Input.text j "reconciled_close_id"
    reconciledAt := ← Input.time j "reconciled_at"
    createdAt := ← Input.time j "created_at"
    updatedAt := ← Input.time j "updated_at"
    closedAt := ← Input.time j "closed_at" }

def Trade.toJson (t : Trade) : Json :=
  .obj [
    ("id", .str t.id),
    ("trader_id", .str t.traderId),
    ("symbol", .str t.symbol),
    ("side", .str t.side.text),
    ("size", Json.ofFloat t.size),
    ("entry_price", Json.ofFloat t.entryPrice),
    ("exit_price", Json.ofFloat t.exitPrice),
    ("realized_pnl", Json.ofFloat t.realizedPnl),
    ("status", .str t.status.text),
    ("merged_into_trade_id", .str t.mergedIntoTradeId),
    ("merged_trade_ids", Json.ofStrings t.mergedTradeIds),
    ("reason", .str t.reason),
    ("exchange_order_id", .str t.exchangeOrderId),
    ("client_order_id", .str t.clientOrderId),
    ("close_order_id", .str t.closeOrderId),
    ("raw_response", .str t.rawResponse),
    ("entry_filled_qty", Json.ofFloat t.entryFilledQty),
    ("entry_order_status", .str t.entryOrderStatus),
    ("exit_filled_qty", Json.ofFloat t.exitFilledQty),
    ("exit_order_status", .str t.exitOrderStatus),
    ("last_event_at", Json.ofInt t.lastEventAt),
    ("version", Json.ofInt t.version),
    ("reconciled_close_id", .str t.reconciledCloseId),
    ("reconciled_at", Json.ofTime t.reconciledAt),
    ("created_at", Json.ofTime t.createdAt),
    ("updated_at", Json.ofTime t.updatedAt),
    ("closed_at", Json.ofTime t.closedAt)]

/-- An execution report from its JSON form. -/
def OrderUpdate.ofJson (j : Json) : Input OrderUpdate := do
  let statusText ← Input.text j "status"
  let raw ← Input.flag j "raw_status"
  pure {
    symbol := ← Input.text j "symbol"
    orderId := ← Input.text j "order_id"
    clientOrderId := ← Input.text j "client_order_id"
    side := OrderSide.ofText (← Input.text j "side")
    positionSide := ← Input.text j "position_side"
    status := if raw then OrderStatus.ofText statusText else OrderStatus.parse statusText
    executionType := ← Input.text j "execution_type"
    cumulativeQty := ← Input.float j "cumulative_qty"
    avgPrice := ← Input.float j "avg_price"
    lastPrice := ← Input.float j "last_price"
    lastQty := ← Input.float j "last_qty"
    commission := ← Input.float j "commission"
    realizedPnl := ← Input.float j "realized_pnl"
    tradeTime := ← Input.int j "trade_time"
    futures := ← Input.flag j "futures" }

/-- The JSON form of an execution report, with its fill price. -/
def OrderUpdate.toJson (o : OrderUpdate) : Json :=
  .obj [
    ("symbol", .str o.symbol),
    ("order_id", .str o.orderId),
    ("client_order_id", .str o.clientOrderId),
    ("side", .str o.side.text),
    ("position_side", .str o.positionSide),
    ("status", .str o.status.text),
    ("execution_type", .str o.executionType),
    ("cumulative_qty", Json.ofFloat o.cumulativeQty),
    ("avg_price", Json.ofFloat o.avgPrice),
    ("last_price", Json.ofFloat o.lastPrice),
    ("last_qty", Json.ofFloat o.lastQty),
    ("commission", Json.ofFloat o.commission),
    ("realized_pnl", Json.ofFloat o.realizedPnl),
    ("trade_time", Json.ofInt o.tradeTime),
    ("futures", .bool o.futures),
    ("fill_price", Json.ofFloat o.fillPrice)]

def Balance.toJson (b : Balance) : Json :=
  .obj [("asset", .str b.asset), ("free", Json.ofFloat b.free), ("locked", Json.ofFloat b.locked)]

/-- The JSON form of an event: its kind, names, time and payload. -/
def Event.toJson (e : Event) : Json :=
  let base : List (String × Json) := [
    ("kind", .str e.kind.text),
    ("type", .str e.type),
    ("event_time", Json.ofInt e.eventTime),
    ("stream", .str e.stream)]
  let payload : List (String × Json) := match e.payload with
    | .order o => [("order", o.toJson)]
    | .account a => [("account", .obj [("balances", .arr (a.balances.map Balance.toJson))])]
    | .ticker t => [("ticker", .obj [("symbol", .str t.symbol), ("price", Json.ofFloat t.price),
        ("source", .str t.source.text)])]
    | .listenKeyExpired => []
  .obj (base ++ payload)

/-- The kind of a decode error as written in answers. -/
def DecodeError.kindText (e : DecodeError) : String :=
  match e.errorClass with
  | .malformed => "malformed"
  | .invalidEvent => "invalid_event"

def DecodeError.toJson (e : DecodeError) : Json :=
  .obj [("kind", .str e.kindText), ("message", .str e.message)]

/-- The JSON form of a frame's events and errors. -/
def Decoded.toJson (d : Decoded) : Json :=
  .obj [("events", .arr (d.events.map Event.toJson)), ("errors", .arr (d.errors.map DecodeError.toJson))]

def FillDecision.toJson (d : FillDecision) : Json :=
  .obj [("apply", .bool d.apply), ("reason", .str d.reason), ("new_qty", .bool d.newQty),
    ("pnl_delta", Json.ofFloat d.pnlDelta)]

end TradeLedger
