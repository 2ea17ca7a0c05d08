import TradeLedger.Text.Blank
import TradeLedger.Text.Case
/-!
# Venue orders

An execution report tells where an order of the venue stands: which symbol, which ids, which
side, how much has filled so far (cumulatively) and at what prices. `OrderStatus.parse` trims
blanks, folds to upper case and maps the venue's spellings onto six statuses; anything else is
`UNKNOWN`. A status also orders the lifecycle: new before partially filled before the four
terminal statuses, which share the highest rank; text that is no status has rank zero.

## Main definitions

* `OrderStatus`, `OrderSide`: statuses and sides, kept as text.
* `OrderUpdate`: an execution report.
-/

namespace TradeLedger

/-- The status of a venue order. `other` holds text that is none of the six statuses,
`UNKNOWN` included. -/
inductive OrderStatus where
  | new
  | partiallyFilled
  | filled
  | canceled
  | expired
  | rejected
  | other (text : String)
  deriving Repr, DecidableEq, Inhabited

namespace OrderStatus

/-- The status that a parse gives to text it does not know. -/
def unknown : OrderStatus := .other "UNKNOWN"

/-- The canonical spelling. -/
def text : OrderStatus → String
  | .new => "NEW"
  | .partiallyFilled => "PARTIALLY_FILLED"
  | .filled => "FILLED"
  | .canceled => "CANCELED"
  | .expired => "EXPIRED"
  | .rejected => "REJECTED"
  | .other t => t

/-- The status whose canonical spelling is `t`; other text is kept as it is. -/
def ofText (t : String) : OrderStatus :=
  match t with
  | "NEW" => .new
  | "PARTIALLY_FILLED" => .partiallyFilled
  | "FILLED" => .filled
  | "CANCELED" => .canceled
  | "EXPIRED" => .expired
  | "REJECTED" => .rejected
  | _ => .other t

/-- Map a venue spelling onto a status: blanks trimmed, upper case, synonyms joined. -/
def parse (s : String) : OrderStatus :=
  match String.toUpperSimple (String.trimBlank s) with
  | "NEW" => .new
  | "PARTIALLY_FILLED" | "PARTIAL" => .partiallyFilled
  | "FILLED" => .filled
  | "CANCELED" | "CANCELLED" | "PENDING_CANCEL" => .canceled
  | "EXPIRED" | "EXPIRED_IN_MATCH" => .expired
  | "REJECTED" => .rejected
  | _ => unknown

/-- How far along its lifecycle an order is: 1 new, 2 partially filled, 3 terminal, 0 for
text that is no status. -/
def rank : OrderStatus → Nat
  | .new => 1
  | .partiallyFilled => 2
  | .filled | .canceled | .expired | .rejected => 3
  | .other _ => 0

/-- No further fills can arrive. -/
def terminal (s : OrderStatus) : Bool := s.rank == 3

/-- The statuses that end an order without (further) fills. -/
def endsUnfilled : OrderStatus → Bool
  | .canceled | .expired | .rejected => true
  | _ => false

end OrderStatus

inductive OrderSide where
  | buy
  | sell
  | other (text : String)
  deriving Repr, DecidableEq, Inhabited

namespace OrderSide

/-- The spelling of a side. -/
def text : OrderSide → String
  | .buy => "BUY"
  | .sell => "SELL"
  | .other t => t

/-- The side spelled `t`. -/
def ofText (t : String) : OrderSide :=
  match t with
  | "BUY" => .buy
  | "SELL" => .sell
  | _ => .other t

end OrderSide

/-- An execution report from the spot or futures user stream. Quantities are cumulative over
the order's life; `realizedPnl` is the futures venue's profit of this fill. -/
structure OrderUpdate where
  symbol : String := ""
  orderId : String := ""
  clientOrderId : String := ""
  side : OrderSide := .other ""
  positionSide : String := ""
  status : OrderStatus := .other ""
  executionType : String := ""
  cumulativeQty : Float := 0
  avgPrice : Float := 0
  lastPrice : Float := 0
  lastQty : Float := 0
  commission : Float := 0
  realizedPnl : Float := 0
  tradeTime : Int := 0
  futures : Bool := false
  deriving Repr, Inhabited

/-- The best price for the filled quantity: the average price when positive, else the last
fill's price. -/
def OrderUpdate.fillPrice (o : OrderUpdate) : Float :=
  if o.avgPrice > 0 then o.avgPrice else o.lastPrice

end TradeLedger
