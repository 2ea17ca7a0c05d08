import TradeLedger.Command.Codec
import TradeLedger.Position.Basic
import TradeLedger.Reconcile.Match
import TradeLedger.Venue.History
/-!
# JSON forms of positions, history records and fills

Positions and rebuilt round trips are written in answers; the venue's closed-position records
and its fills are read from arguments, a fill's quantities as decimal texts kept as given.

## Main definitions

* `Position.toJson`, `Record.ofJson`, `Fill.ofJson`: the JSON forms.
-/

namespace TradeLedger

def Position.toJson (p : Position) : Json :=
  .obj [
    ("trader_id", .str p.traderId),
    ("symbol", .str p.symbol),
    ("side", .str p.side.text),
    ("size", Json.ofFloat p.size),
    ("entry_price", Json.ofFloat p.entryPrice),
    ("mark_price", Json.ofFloat p.markPrice),
    ("unrealized_pnl", Json.ofFloat p.unrealizedPnl),
    ("trade_ids", Json.ofStrings p.tradeIds),
    ("primary_trade_id", .str p.primaryTradeId),
    ("opened_at", Json.ofTime p.openedAt)]

/-- A closed-position record from its JSON form. -/
def Record.ofJson (j : Json) : Input Record := do
  pure {
    closeId := ← Input.text j "close_id"
    symbol := ← Input.text j "symbol"
    side := ← Input.text j "side"
    openTime := ← Input.time j "open_time"
    closeTime := ← Input.time j "close_time"
    openPrice := ← Input.float j "open_price"
    closePrice := ← Input.float j "close_price"
    size := ← Input.float j "size"
    realizedPnl := ← Input.float j "realized_pnl"
    hasRealized := ← Input.flag j "has_realized"
    fee := ← Input.float j "fee"
    funding := ← Input.float j "funding"
    hasFunding := ← Input.flag j "has_funding" }

def Fill.ofJson (j : Json) : Input Fill := do
  pure {
    id := ← Input.int j "id"
    orderId := ← Input.int j "order_id"
    symbol := ← Input.text j "symbol"
    side := ← Input.text j "side"
    positionSide := ← Input.text j "position_side"
    price := ← Input.text j "price"
    qty := ← Input.text j "qty"
    realizedPnl := ← Input.text j "realized_pnl"
    commission := ← Input.text j "commission"
    time := ← Input.int j "time" }

/-- The JSON form of a rebuilt round trip. -/
def PositionRecord.toJson (r : PositionRecord) : Json :=
  .obj [
    ("close_id", .str r.closeId),
    ("symbol", .str r.symbol),
    ("side", .str r.side),
    ("open_time", Json.ofTime r.openTime),
    ("close_time", Json.ofTime r.closeTime),
    ("open_price", Json.ofFloat r.openPrice),
    ("close_price", Json.ofFloat r.closePrice),
    ("size", Json.ofFloat r.size),
    ("realized_pnl", Json.ofFloat r.realizedPnl),
    ("fee", Json.ofFloat r.fee)]

namespace Command

/-- The answer for a failure of some kind. -/
def errorAnswer (kind message : String) : Json :=
  .obj [("error", .str kind), ("message", .str message)]

/-- The answer for a computation that met a float without a decimal. -/
def panicAnswer (message : String) : Json := errorAnswer "panic" message

end Command

end TradeLedger
