import TradeLedger.Trade.Basic
import TradeLedger.Number.Decimal
import TradeLedger.Time.Instant
/-!
# Positions

A position is the aggregate of a trader's live trades on one symbol and side: the total size and
the size-weighted entry price, in exact decimals from the trades' shortest digits. The oldest
trade is the primary. A float without a decimal cannot enter the sums, and the computation is
refused with `Cannot create a Decimal from …`.

## Main definitions

* `Position`: the aggregate.
* `aggregate`: a position from trades, leaving out one id.
-/

namespace TradeLedger

/-- A trader's aggregated live trades on one symbol and side. -/
structure Position where
  traderId : String := ""
  symbol : String := ""
  side : TradeSide := .other ""
  size : Float := 0
  entryPrice : Float := 0
  markPrice : Float := 0
  unrealizedPnl : Float := 0
  tradeIds : List String := []
  primaryTradeId : String := ""
  openedAt : Instant := none
  deriving Repr, Inhabited

/-- A computation that may meet a float without a decimal; the text says which. -/
abbrev Exact := Except String

/-- Combined size and size-weighted entry price of two legs. When the combined size is not
positive the entry is the second leg's price, and the prices are not looked at. -/
def weightedEntry (sizeA priceA sizeB priceB : Float) : Exact (Float × Float) := do
  let a ← Decimal.ofFloat sizeA
  let b ← Decimal.ofFloat sizeB
  let total := a.add b
  if !total.isPositive then pure (total.toFloat, priceB)
  else
    let pa ← Decimal.ofFloat priceA
    let pb ← Decimal.ofFloat priceB
    let notional := (a.mul pa).add (b.mul pb)
    pure (total.toFloat, ((notional.div total).getD Decimal.zero).toFloat)

/-- Running sums of an aggregation: the position so far, total size and notional. The
position is started by a trade while it has no primary id, so a trade with an empty id
leaves it to be started again by the next one, which drops the ids gathered so far; the
sums keep every trade. -/
structure Aggregation where
  position : Position := {}
  size : Decimal := Decimal.zero
  notional : Decimal := Decimal.zero

/-- Add one trade to an aggregation. -/
def Aggregation.push (traderId : String) (acc : Aggregation) (t : Trade) : Exact Aggregation := do
  let p := if acc.position.primaryTradeId == "" then
      { traderId := traderId, symbol := t.symbol, side := t.side, primaryTradeId := t.id,
        openedAt := t.createdAt }
    else acc.position
  let s ← Decimal.ofFloat t.size
  let price ← Decimal.ofFloat t.entryPrice
  pure { position := { p with tradeIds := p.tradeIds ++ [t.id] },
         size := acc.size.add s,
         notional := acc.notional.add (s.mul price) }

/-- The position of `trades` without the trades whose id is `exclude`; `none` when no trade
with an id is left. The first trade with an id is the primary. The entry price is the
size-weighted mean when the size is positive, and 0 otherwise. -/
def aggregate (traderId : String) (trades : List Trade) (exclude : String) :
    Exact (Option Position) := do
  let acc ← (trades.filter (·.id != exclude)).foldlM (Aggregation.push traderId) {}
  let p := acc.position
  if p.primaryTradeId == "" then pure none
  else
    let entry := if acc.size.isPositive then ((acc.notional.div acc.size).getD Decimal.zero).toFloat
      else 0
    pure (some { p with size := acc.size.toFloat, entryPrice := entry })

end TradeLedger
