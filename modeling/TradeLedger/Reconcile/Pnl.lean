import TradeLedger.Reconcile.Match
import TradeLedger.Number.Decimal
/-!
# Realized profit of a matched record

The net realized profit of a matched record is the venue's realized figure when it gives one,
otherwise the price difference times the size, negated for a short; then the fee is taken off
and the funding added, all in exact decimals on the floats' shortest digits.

## Main definitions

* `derivePnl`: the profit, or the float without a decimal.
* `material`: whether a difference exceeds the threshold.
-/

namespace TradeLedger

/-- The net realized profit of a record for a trade on `side`. The record's side, when it is
exactly `LONG` or `SHORT`, takes precedence over the trade's. -/
def derivePnl (side : TradeSide) (r : Record) (funding : Float) : Except String Decimal := do
  let realized ← Decimal.ofFloat r.realizedPnl
  let gross ← if r.hasRealized then pure realized else do
    let close ← Decimal.ofFloat r.closePrice
    let opening ← Decimal.ofFloat r.openPrice
    let diff := close.sub opening
    let recSide := match TradeSide.ofText r.side with
      | .other _ => side
      | s => s
    let diff := if recSide == .short then diff.neg else diff
    let size ← Decimal.ofFloat r.size
    pure (diff.mul size)
  let fee ← Decimal.ofFloat r.fee
  let fund ← Decimal.ofFloat funding
  pure ((gross.sub fee).add fund)

/-- Whether `stored` and `derived` differ by more than `threshold`. -/
def material (stored : Float) (derived : Decimal) (threshold : Float) : Except String Bool := do
  let s ← Decimal.ofFloat stored
  let th ← Decimal.ofFloat threshold
  pure ((derived.sub s).abs.gt th)

end TradeLedger
