import TradeLedger.Event.Basic
import TradeLedger.Frame.Record
/-!
# Decoding frames into events

A frame is one event object, a multiplexed envelope `{"stream": …, "data": …}`, or a bare array;
arrays nest. An array yields its elements' events in order, each bad element its own error; an
object without `e` but with `data` is an envelope; an object whose `e` is not a known event type
yields nothing; a known event is read by its own record, a fault there an invalid event. A bad
event time makes the whole object malformed.

## Main definitions

* `Frame.decode`: the events and errors of a frame.
* `checkOrder`: the checks an execution report must pass.
-/

namespace TradeLedger

/-- The events and the errors of a frame, each in order. -/
structure Decoded where
  events : List Event := []
  errors : List DecodeError := []
  deriving Repr, Inhabited

/-- Events and errors of two parts of a frame, one after the other. -/
def Decoded.append (a b : Decoded) : Decoded := ⟨a.events ++ b.events, a.errors ++ b.errors⟩

namespace Event

open TradeLedger.Frame

/-- The checks every execution report must pass, in order. -/
def checkOrder (o : OrderUpdate) : Except EventFault OrderUpdate :=
  if o.symbol == "" then .error .symbolRequired
  else if o.orderId == "" && o.clientOrderId == "" then .error .orderIdRequired
  else if o.status == OrderStatus.unknown then .error .unknownStatus
  else if o.cumulativeQty < 0 then .error .negativeQuantity
  else .ok o

structure SpotReport where
  symbol : String := ""
  clientOrderId : String := ""
  origClientId : String := ""
  side : String := ""
  status : String := ""
  executionType : String := ""
  orderId : String := ""
  cumQty : Float := 0
  cumQuote : Float := 0
  lastPrice : Float := 0
  lastQty : Float := 0
  commission : Float := 0
  commissionAsset : String := ""
  transactTime : Int := 0
  tradeId : Int := 0

/-- Fields of a spot execution report; names differ only in case, so they match exactly. -/
def spotFields : List (Field SpotReport) := [
  stringField "s" fun r v => { r with symbol := v },
  stringField "c" fun r v => { r with clientOrderId := v },
  stringField "C" fun r v => { r with origClientId := v },
  stringField "S" fun r v => { r with side := v },
  stringField "X" fun r v => { r with status := v },
  stringField "x" fun r v => { r with executionType := v },
  idField "i" 1 fun r v => { r with orderId := v },
  rawField "I" 1 fun r _ => r,
  floatField "z" 1 fun r v => { r with cumQty := v },
  floatField "Z" 1 fun r v => { r with cumQuote := v },
  floatField "L" 1 fun r v => { r with lastPrice := v },
  floatField "l" 1 fun r v => { r with lastQty := v },
  floatField "n" 1 fun r v => { r with commission := v },
  stringField "N" fun r v => { r with commissionAsset := v },
  intField "T" 1 fun r v => { r with transactTime := v },
  intField "t" 1 fun r v => { r with tradeId := v }]

/-- A spot execution report. A cancel report carries the cancel request's id in `c` and the
order's own client id in `C`, which wins when present. The average price is the cumulative
quote over the cumulative quantity. -/
def decodeSpot (frame : List UInt8) : Except EventFault OrderUpdate :=
  match readWhole (readRecord .exact spotFields 0 {}) frame with
  | .error f => .error (.frame f)
  | .ok r =>
    let r := r.getD {}
    let o : OrderUpdate := {
      symbol := String.toUpperSimple r.symbol
      orderId := r.orderId
      clientOrderId := if r.origClientId != "" then r.origClientId else r.clientOrderId
      side := OrderSide.ofText (String.toUpperSimple r.side)
      status := OrderStatus.parse r.status
      executionType := String.toUpperSimple r.executionType
      cumulativeQty := r.cumQty
      avgPrice := if r.cumQty > 0 then r.cumQuote / r.cumQty else 0
      lastPrice := r.lastPrice
      lastQty := r.lastQty
      commission := r.commission
      tradeTime := r.transactTime }
    checkOrder o

/-- The order object of a futures execution report. -/
structure FuturesOrder where
  symbol : String := ""
  clientOrderId : String := ""
  side : String := ""
  status : String := ""
  executionType : String := ""
  orderId : String := ""
  avgPrice : Float := 0
  activatePrice : Float := 0
  cumQty : Float := 0
  lastPrice : Float := 0
  lastQty : Float := 0
  commission : Float := 0
  commissionAsset : String := ""
  realizedPnl : Float := 0
  tradeTime : Int := 0
  tradeId : Int := 0
  positionSide : String := ""

/-- Fields of a futures order object; names differ only in case, so they match exactly. -/
def futuresOrderFields : List (Field FuturesOrder) := [
  stringField "s" fun r v => { r with symbol := v },
  stringField "c" fun r v => { r with clientOrderId := v },
  stringField "S" fun r v => { r with side := v },
  stringField "X" fun r v => { r with status := v },
  stringField "x" fun r v => { r with executionType := v },
  idField "i" 2 fun r v => { r with orderId := v },
  floatField "ap" 2 fun r v => { r with avgPrice := v },
  floatField "AP" 2 fun r v => { r with activatePrice := v },
  floatField "z" 2 fun r v => { r with cumQty := v },
  floatField "L" 2 fun r v => { r with lastPrice := v },
  floatField "l" 2 fun r v => { r with lastQty := v },
  floatField "n" 2 fun r v => { r with commission := v },
  stringField "N" fun r v => { r with commissionAsset := v },
  floatField "rp" 2 fun r v => { r with realizedPnl := v },
  intField "T" 2 fun r v => { r with tradeTime := v },
  intField "t" 2 fun r v => { r with tradeId := v },
  stringField "ps" fun r v => { r with positionSide := v }]

/-- The envelope of a futures execution report: transaction time and the order object. -/
structure FuturesReport where
  transactTime : Int := 0
  order : Option FuturesOrder := none

/-- Fields of a futures report; case is ignored. An order object is filled on top of an
earlier one, and `null` removes it. -/
def futuresFields : List (Field FuturesReport) := [
  intField "T" 1 fun r v => { r with transactTime := v },
  ⟨"o", fun r bs => do
    let (o, rest) ← readRecord .exact futuresOrderFields 1 (r.order.getD {}) bs
    pure ({ r with order := o }, rest)⟩]

/-- A futures execution report. Its trade time falls back to the transaction time when zero. -/
def decodeFutures (frame : List UInt8) : Except EventFault OrderUpdate :=
  match readWhole (readRecord .foldCase futuresFields 0 {}) frame with
  | .error f => .error (.frame f)
  | .ok r =>
    match (r.getD {}).order with
    | none => .error .missingOrder
    | some d =>
      let o : OrderUpdate := {
        symbol := String.toUpperSimple d.symbol
        orderId := d.orderId
        clientOrderId := d.clientOrderId
        side := OrderSide.ofText (String.toUpperSimple d.side)
        positionSide := String.toUpperSimple d.positionSide
        status := OrderStatus.parse d.status
        executionType := String.toUpperSimple d.executionType
        cumulativeQty := d.cumQty
        avgPrice := d.avgPrice
        lastPrice := d.lastPrice
        lastQty := d.lastQty
        commission := d.commission
        realizedPnl := d.realizedPnl
        tradeTime := if d.tradeTime == 0 then (r.getD {}).transactTime else d.tradeTime
        futures := true }
      checkOrder o

structure SpotBalance where
  asset : String := ""
  free : Float := 0
  locked : Float := 0

/-- Fields of a spot balance row; case is ignored. -/
def spotBalanceFields : List (Field SpotBalance) := [
  stringField "a" fun r v => { r with asset := v },
  floatField "f" 3 fun r v => { r with free := v },
  floatField "l" 3 fun r v => { r with locked := v }]

/-- Read a list of records, each starting from the empty record. -/
def recordList {α : Type} (m : NameMatch) (fields : List (Field α)) (empty : α) (depth : Nat)
    (bs : List UInt8) : Except FrameFault (Option (List α) × List UInt8) :=
  readList (fun d bs => do
    let (r, rest) ← readRecord m fields d empty bs
    pure (r.getD empty, rest)) depth bs

/-- A spot account snapshot: the rows with an asset name, in order. -/
def decodeSpotAccount (frame : List UInt8) : Except EventFault AccountSnapshot :=
  let fields : List (Field (List SpotBalance)) := [
    ⟨"B", fun _ bs => do
      let (xs, rest) ← recordList .foldCase spotBalanceFields {} 1 bs
      pure (xs.getD [], rest)⟩]
  match readWhole (readRecord .foldCase fields 0 []) frame with
  | .error f => .error (.frame f)
  | .ok rows =>
    .ok ⟨(rows.getD []).filterMap fun b =>
      if b.asset == "" then none else some ⟨b.asset, b.free, b.locked⟩⟩

/-- A futures balance row: wallet and cross-wallet balance. -/
structure FuturesBalance where
  asset : String := ""
  wallet : Float := 0
  crossWallet : Float := 0

/-- Fields of a futures balance row; case is ignored. -/
def futuresBalanceFields : List (Field FuturesBalance) := [
  stringField "a" fun r v => { r with asset := v },
  floatField "wb" 4 fun r v => { r with wallet := v },
  floatField "cw" 4 fun r v => { r with crossWallet := v }]

/-- A futures account snapshot: free is the cross-wallet balance, locked the rest of the
wallet balance but never negative. -/
def decodeFuturesAccount (frame : List UInt8) : Except EventFault AccountSnapshot :=
  let inner : List (Field (List FuturesBalance)) := [
    ⟨"B", fun _ bs => do
      let (xs, rest) ← recordList .foldCase futuresBalanceFields {} 2 bs
      pure (xs.getD [], rest)⟩]
  let outer : List (Field (List FuturesBalance)) := [
    ⟨"a", fun rows bs => do
      let (r, rest) ← readRecord .foldCase inner 1 rows bs
      pure (r.getD rows, rest)⟩]
  match readWhole (readRecord .foldCase outer 0 []) frame with
  | .error f => .error (.frame f)
  | .ok rows =>
    .ok ⟨(rows.getD []).filterMap fun b =>
      if b.asset == "" then none
      else
        let free := b.crossWallet
        let locked := b.wallet - free
        some ⟨b.asset, free, if locked < 0 then 0 else locked⟩⟩

/-- The last value of a name in an association list. -/
def lookupLast (key : List UInt8) (m : List (List UInt8 × List UInt8)) : Option (List UInt8) :=
  m.foldl (fun acc (k, v) => if k == key then some v else acc) none

/-- A price tick: the symbol `s` (ignored unless a string) and the price member named
`priceField`. Both are required, the price positive. -/
def decodeTicker (frame : List UInt8) (priceField : String) (source : PriceSource) :
    Except EventFault Ticker :=
  match readWhole (readMap 0) frame with
  | .error f => .error (.frame f)
  | .ok m =>
    let m := m.getD []
    let symbol := match lookupLast (word "s") m with
      | some raw => match readWhole readString raw with
        | .ok (some s) => Utf8.lossy s
        | _ => ""
      | none => ""
    let price := match lookupLast (word priceField) m with
      | some raw => flexFloat raw
      | none => .ok 0
    match price with
    | .error f => .error (.price f)
    | .ok p =>
      if symbol == "" || p <= 0 then .error .tickerIncomplete
      else .ok ⟨String.toUpperSimple symbol, p, source⟩

/-- The payload of a known event type, `none` for a type that is not known. -/
def decodeBody (eventType : String) (frame : List UInt8) : Option (Except EventFault Payload) :=
  match eventType with
  | "executionReport" => some ((decodeSpot frame).map .order)
  | "ORDER_TRADE_UPDATE" => some ((decodeFutures frame).map .order)
  | "outboundAccountPosition" => some ((decodeSpotAccount frame).map .account)
  | "ACCOUNT_UPDATE" => some ((decodeFuturesAccount frame).map .account)
  | "24hrTicker" | "24hrMiniTicker" => some ((decodeTicker frame "c" .last).map .ticker)
  | "markPriceUpdate" => some ((decodeTicker frame "p" .mark).map .ticker)
  | "listenKeyExpired" => some (.ok .listenKeyExpired)
  | _ => none

end Event

namespace Frame

/-- What routing needs of an object: stream name, data and event type as written, event time. -/
structure Probe where
  stream : String := ""
  data : Option (List UInt8) := none
  type : Option (List UInt8) := none
  eventTime : Int := 0

/-- Fields of the routing probe, matched exactly. -/
def probeFields : List (Field Probe) := [
  stringField "stream" fun p v => { p with stream := v },
  rawField "data" 1 fun p v => { p with data := some v },
  rawField "e" 1 fun p v => { p with type := some v },
  intField "E" 1 fun p v => { p with eventTime := v }]

/-- The event type written in `e`: a string's text; `null`, anything else or a bad string
give the empty type. -/
def eventTypeOf (raw : List UInt8) : String :=
  match readWhole readString raw with
  | .ok (some s) => Utf8.lossy s
  | _ => ""

/-- Decode one element (already trimmed) under a stream name. The fuel bounds the nesting and
is never the limit when it exceeds the element's length. -/
def decodeElement : Nat → List UInt8 → String → Decoded
  | 0, _, _ => {}
  | fuel + 1, frame, stream =>
    match frame with
    | [] => ⟨[], [.empty]⟩
    | b :: _ =>
      if b == 91 then
        match readWhole (readList readRaw 0) frame with
        | .error f => ⟨[], [.unreadable f]⟩
        | .ok items =>
          (items.getD []).foldl
            (fun acc item => acc.append (decodeElement fuel (Utf8.trimBlank item) stream)) {}
      else if b == 123 then
        match readWhole (readRecord .exact probeFields 0 {}) frame with
        | .error f => ⟨[], [.unreadable f]⟩
        | .ok p =>
          let p := p.getD {}
          match p.type, p.data with
          | none, some d => decodeElement fuel (Utf8.trimBlank d) p.stream
          | none, none => {}
          | some t, _ =>
            let eventType := eventTypeOf t
            if eventType == "" then {}
            else
              match Event.decodeBody eventType frame with
              | none => {}
              | some (.error f) => ⟨[], [.invalid eventType f]⟩
              | some (.ok payload) => ⟨[⟨eventType, p.eventTime, stream, payload⟩], []⟩
      else ⟨[], [.unexpected b]⟩

/-- All events and errors of a frame. -/
def decode (frame : List UInt8) : Decoded :=
  let f := Utf8.trimBlank frame
  decodeElement (f.length + 1) f ""

end Frame

end TradeLedger
