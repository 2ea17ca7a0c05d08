import TradeLedger.Number.Decimal
import TradeLedger.Time.Instant
/-!
# Closed positions rebuilt from fills

Closed round trips are rebuilt from an account's fills, walked in time order per symbol and
position side; a record is emitted each time the running quantity returns to zero. A fill that
flips the position is split, closing part and remainder sharing its fee. A fill that reports
realized profit while nothing is open closes a position opened before the first fill, and is
skipped. A fill whose quantity does not read or is not positive is skipped; any other text that
does not read counts as zero.

## Main definitions

* `RoundTrip`, `PositionRecord`: a round trip open and closed.
* `buildPositionHistory`: the records of a list of fills.
-/

namespace TradeLedger

/-- One account fill as the venue lists it. -/
structure Fill where
  id : Int := 0
  orderId : Int := 0
  symbol : String := ""
  side : String := ""
  positionSide : String := ""
  price : String := ""
  qty : String := ""
  realizedPnl : String := ""
  commission : String := ""
  time : Int := 0
  deriving Repr, Inhabited

/-- One closed round trip. `closeId` is the id of the fill that brought the position back to
flat; `size` is the peak absolute quantity; `fee` is the commission paid. -/
structure PositionRecord where
  closeId : String := ""
  symbol : String := ""
  side : String := ""
  openTime : Instant := none
  closeTime : Instant := none
  openPrice : Float := 0
  closePrice : Float := 0
  size : Float := 0
  realizedPnl : Float := 0
  fee : Float := 0
  deriving Repr, Inhabited

/-- An open round trip: signed running quantity (buys positive), its peak magnitude, and the
entry and exit sums. -/
structure RoundTrip where
  side : String := ""
  openTime : Int := 0
  net : Decimal := Decimal.zero
  peak : Decimal := Decimal.zero
  entryQty : Decimal := Decimal.zero
  entryValue : Decimal := Decimal.zero
  exitQty : Decimal := Decimal.zero
  exitValue : Decimal := Decimal.zero
  pnl : Decimal := Decimal.zero
  fee : Decimal := Decimal.zero

namespace RoundTrip

/-- A round trip opened by a fill of `qty` at `price`, paying `fee`. -/
def start (f : Fill) (qty price fee pnl : Decimal) (buy : Bool) : RoundTrip :=
  { side := if buy then "LONG" else "SHORT"
    openTime := f.time
    net := if buy then qty else qty.neg
    peak := qty
    entryQty := qty
    entryValue := qty.mul price
    fee := fee
    pnl := pnl }

/-- The record of a round trip closed by the fill `closing`. -/
def record (r : RoundTrip) (closing : Fill) : PositionRecord :=
  { closeId := toString closing.id
    symbol := closing.symbol
    side := r.side
    openTime := Instant.ofMs r.openTime
    closeTime := Instant.ofMs closing.time
    size := r.peak.toFloat
    realizedPnl := r.pnl.toFloat
    fee := r.fee.toFloat
    openPrice := if r.entryQty.isPositive then
      ((r.entryValue.div r.entryQty).getD Decimal.zero).toFloat else 0
    closePrice := if r.exitQty.isPositive then
      ((r.exitValue.div r.exitQty).getD Decimal.zero).toFloat else 0 }

end RoundTrip

/-- Fills in time order, ties by id, otherwise in the order given. -/
def Fill.sortByTime (fills : List Fill) : List Fill :=
  fills.mergeSort fun a b => a.time < b.time || (a.time == b.time && a.id ≤ b.id)

/-- Open round trips by `symbol|positionSide`, and the records emitted so far. -/
structure HistoryState where
  opened : List (String × RoundTrip) := []
  records : List PositionRecord := []

namespace HistoryState

/-- The open round trip of a key. -/
def find? (s : HistoryState) (key : String) : Option RoundTrip :=
  (s.opened.find? (·.1 == key)).map (·.2)

/-- Set the open round trip of a key. -/
def put (s : HistoryState) (key : String) (r : RoundTrip) : HistoryState :=
  { s with opened := (key, r) :: s.opened.filter (·.1 != key) }

/-- Forget the open round trip of a key. -/
def drop (s : HistoryState) (key : String) : HistoryState :=
  { s with opened := s.opened.filter (·.1 != key) }

/-- Open a round trip with a fill when nothing is open; a fill reporting realized profit
is skipped instead. -/
def openFresh (s : HistoryState) (key : String) (f : Fill) (qty price fee pnl : Decimal)
    (buy : Bool) : HistoryState :=
  if !pnl.isZero then s else s.put key (RoundTrip.start f qty price fee pnl buy)

/-- Walk one fill. -/
def push (s : HistoryState) (f : Fill) : HistoryState :=
  match Decimal.ofString? f.qty with
  | none => s
  | some qty =>
    if !qty.isPositive then s else
    let price := (Decimal.ofString? f.price).getD Decimal.zero
    let fee := (Decimal.ofString? f.commission).getD Decimal.zero
    let pnl := (Decimal.ofString? f.realizedPnl).getD Decimal.zero
    let buy := f.side == "BUY"
    let key := f.symbol ++ "|" ++ f.positionSide
    match s.find? key with
    | some rt =>
      if rt.net.isZero then s.openFresh key f qty price fee pnl buy
      else
        let increasing := (rt.net.isPositive && buy) || (rt.net.coeff < 0 && !buy)
        if increasing then
          let net := if buy then rt.net.add qty else rt.net.sub qty
          let peak := if net.abs.gt rt.peak then net.abs else rt.peak
          s.put key { rt with net := net, peak := peak, entryQty := rt.entryQty.add qty,
                              entryValue := rt.entryValue.add (qty.mul price),
                              fee := rt.fee.add fee, pnl := rt.pnl.add pnl }
        else
          let closeQty := if rt.net.abs.compare qty == .lt then rt.net.abs else qty
          let share := (closeQty.div qty).getD Decimal.zero
          let net := if rt.net.isPositive then rt.net.sub closeQty else rt.net.add closeQty
          let rt := { rt with exitQty := rt.exitQty.add closeQty,
                              exitValue := rt.exitValue.add (closeQty.mul price),
                              pnl := rt.pnl.add pnl, fee := rt.fee.add (fee.mul share), net := net }
          if !net.isZero then s.put key rt
          else
            let s := { s.drop key with records := s.records ++ [rt.record f] }
            let rest := qty.sub closeQty
            if rest.isPositive then
              s.put key (RoundTrip.start f rest price (fee.sub (fee.mul share)) Decimal.zero buy)
            else s
    | none => s.openFresh key f qty price fee pnl buy

end HistoryState

/-- The closed round trips of a list of fills, in the order they closed. -/
def buildPositionHistory (fills : List Fill) : List PositionRecord :=
  ((Fill.sortByTime fills).foldl HistoryState.push {}).records

end TradeLedger
