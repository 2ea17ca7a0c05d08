import TradeLedger.Trade.Basic
import TradeLedger.Number.Text
import TradeLedger.Number.Binary64
/-!
# Folding order fills into trades

An execution report is applied to one leg of a trade. The venue may deliver a report twice,
late or out of order, so `decideFill` first compares it with what the leg has recorded:

* a cumulative quantity below the recorded one (by more than `1e-12`) is a regression and is
  skipped, its message giving both quantities to eight places;
* no more quantity and no later status is a duplicate;
* an event time before the trade's last event with no more quantity is stale;
* anything else applies; the exit leg's realized profit counts only when quantity grew.

`applyFill` records the leg's progress; only live trades change further. The exit leg adds
the profit and closes the trade once the order is filled; the entry leg sets size and entry
price from the fill (a primary that absorbed others grows by the new quantity at the last
price), opens a pending trade once anything filled, and fails one whose order ended unfilled.

## Main definitions

* `decideFill`: skipping, or applying, a report.
* `applyFill`: the trade after a report.
-/

namespace TradeLedger

/-- Quantities closer than this are equal. -/
def qtyEpsilon : Float := Binary64.nearest false 1 (Nat.pow 10 12)

/-- The outcome of comparing an event with a leg's recorded progress. -/
structure FillDecision where
  apply : Bool := false
  /-- why the event was skipped -/
  reason : String := ""
  /-- the cumulative quantity strictly increased -/
  newQty : Bool := false
  /-- realized profit to add, exit leg only -/
  pnlDelta : Float := 0
  deriving Repr, Inhabited

/-- The recorded quantity and status of a leg. -/
def Trade.legProgress (t : Trade) : Leg → Float × OrderStatus
  | .entry => (t.entryFilledQty, OrderStatus.parse t.entryOrderStatus)
  | .exit => (t.exitFilledQty, OrderStatus.parse t.exitOrderStatus)

/-- Decide whether an event applies to a leg. Never changes the trade. -/
def decideFill (t : Trade) (leg : Leg) (o : OrderUpdate) (eventTime : Int) : FillDecision :=
  let (prevQty, prevStatus) := t.legProgress leg
  let qty := o.cumulativeQty
  if qty < prevQty - qtyEpsilon then
    { reason := "cumulative quantity regressed " ++ Float.toFixed qty 8 ++ " < " ++ Float.toFixed prevQty 8 }
  else if qty <= prevQty + qtyEpsilon && o.status.rank ≤ prevStatus.rank then
    { reason := "duplicate" }
  else if 0 < eventTime && eventTime < t.lastEventAt && qty <= prevQty + qtyEpsilon then
    { reason := "stale event" }
  else
    let newQty := qty > prevQty + qtyEpsilon
    let pnl := if leg == .exit && newQty then o.realizedPnl else 0
    { apply := true, newQty := newQty, pnlDelta := pnl }

/-- The lifecycle change a fill caused. -/
inductive Transition where
  | none
  | opened
  | closed
  | failed
  deriving Repr, DecidableEq, Inhabited

/-- The spelling of a transition; no change is the empty text. -/
def Transition.text : Transition → String
  | .none => ""
  | .opened => "opened"
  | .closed => "closed"
  | .failed => "failed"

/-- Add a primary's own later fill of `delta` to its aggregate, at the last price (or the fill
price when there is none). A primary merged before any fill already counts its requested size,
so only real growth is added. -/
def Trade.growMergedEntry (t : Trade) (o : OrderUpdate) (delta : Float) : Trade :=
  if delta <= qtyEpsilon then t
  else
    let price := if o.lastPrice <= 0 then o.fillPrice else o.lastPrice
    let size := t.size + delta
    let entry := if price > 0 && size > 0 then (t.size * t.entryPrice + delta * price) / size
      else t.entryPrice
    { t with size := size, entryPrice := entry }

/-- When a trade closed: the order's trade time, else the event time, else now. -/
def closeTime (o : OrderUpdate) (eventTime now : Int) : Int :=
  if 0 < o.tradeTime then o.tradeTime else if 0 < eventTime then eventTime else now

/-- Fold a fill into a trade. Rows that are not live only record the leg's progress. -/
def applyFill (t : Trade) (leg : Leg) (o : OrderUpdate) (d : FillDecision) (eventTime now : Int) :
    Trade × Transition :=
  let live := t.status.live
  let t := if eventTime > t.lastEventAt then { t with lastEventAt := eventTime } else t
  match leg with
  | .exit =>
    let t := { t with exitFilledQty := o.cumulativeQty, exitOrderStatus := o.status.text }
    if !live then (t, .none)
    else
      let t := { t with realizedPnl := t.realizedPnl + d.pnlDelta }
      if o.status == .filled then
        let p := o.fillPrice
        let t := { t with status := .closed, closedAt := some (closeTime o eventTime now) }
        ((if p > 0 then { t with exitPrice := p } else t), .closed)
      else (t, .none)
  | .entry =>
    let prevQty := t.entryFilledQty
    let t := { t with entryFilledQty := o.cumulativeQty, entryOrderStatus := o.status.text }
    if !live then (t, .none)
    else if o.cumulativeQty > qtyEpsilon then
      let t :=
        if t.mergedTradeIds.isEmpty then
          let p := o.fillPrice
          let t := { t with size := o.cumulativeQty }
          if p > 0 then { t with entryPrice := p } else t
        else if prevQty > qtyEpsilon then t.growMergedEntry o (o.cumulativeQty - prevQty)
        else t
      if t.status == .pending then ({ t with status := .opened }, .opened) else (t, .none)
    else if o.status.endsUnfilled && t.status == .pending then
      let reason := "entry order " ++ o.status.text ++ " without fill"
      ({ t with status := .failed, reason := reason }, .failed)
    else (t, .none)

end TradeLedger
