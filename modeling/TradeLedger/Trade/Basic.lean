import TradeLedger.Venue.Order
import TradeLedger.Time.Instant
/-!
# Trades

A trade is one row of the ledger: a trader's position on a symbol in one direction, its size
and prices, where it stands in its lifecycle, the venue orders that open (entry leg) and close
(exit leg) it, and how far each leg has filled. Rows are never deleted. A trade is live while
pending or open: only live trades make up a position. A trade may absorb other trades of the
same trader, symbol and side (it is then their primary); the absorbed trades are marked merged
and point to it. Sides and statuses are kept as text where a row may hold other words.

## Main definitions

* `TradeSide`, `TradeStatus`, `Leg`: directions, lifecycle and legs.
* `Trade`: a row.
-/

namespace TradeLedger

/-- The direction of a trade. -/
inductive TradeSide where
  | long
  | short
  | other (text : String)
  deriving Repr, DecidableEq, Inhabited

namespace TradeSide

/-- The spelling of a side. -/
def text : TradeSide → String
  | .long => "LONG"
  | .short => "SHORT"
  | .other t => t

/-- The side spelled `t`. -/
def ofText (t : String) : TradeSide :=
  match t with
  | "LONG" => .long
  | "SHORT" => .short
  | _ => .other t

/-- The other direction; anything but long counts as short. -/
def opposite : TradeSide → TradeSide
  | .long => .short
  | _ => .long

/-- A side is valid when it is long or short. -/
def valid : TradeSide → Bool
  | .long | .short => true
  | .other _ => false

end TradeSide

/-- The lifecycle state of a trade. -/
inductive TradeStatus where
  | pending
  | opened
  | closed
  | merged
  | rejected
  | cooldownRejected
  | failed
  | other (text : String)
  deriving Repr, DecidableEq, Inhabited

namespace TradeStatus

/-- The spelling of a status. -/
def text : TradeStatus → String
  | .pending => "PENDING"
  | .opened => "OPEN"
  | .closed => "CLOSED"
  | .merged => "MERGED"
  | .rejected => "REJECTED"
  | .cooldownRejected => "COOLDOWN_REJECTED"
  | .failed => "FAILED"
  | .other t => t

/-- The status spelled `t`. -/
def ofText (t : String) : TradeStatus :=
  match t with
  | "PENDING" => .pending
  | "OPEN" => .opened
  | "CLOSED" => .closed
  | "MERGED" => .merged
  | "REJECTED" => .rejected
  | "COOLDOWN_REJECTED" => .cooldownRejected
  | "FAILED" => .failed
  | _ => .other t

/-- A live trade still contributes to a position: it is pending or open. -/
def live : TradeStatus → Bool
  | .pending | .opened => true
  | _ => false

end TradeStatus

/-- The two legs of a trade: the order that opens it and the order that closes it. -/
inductive Leg where
  | entry
  | exit
  deriving Repr, DecidableEq, Inhabited

def Leg.text : Leg → String
  | .entry => "entry"
  | .exit => "exit"

/-- A ledger row. Instants are unix milliseconds, `none` when unset. -/
structure Trade where
  id : String := ""
  traderId : String := ""
  symbol : String := ""
  side : TradeSide := .other ""
  size : Float := 0
  entryPrice : Float := 0
  exitPrice : Float := 0
  realizedPnl : Float := 0
  status : TradeStatus := .other ""
  mergedIntoTradeId : String := ""
  mergedTradeIds : List String := []
  reason : String := ""
  exchangeOrderId : String := ""
  clientOrderId : String := ""
  closeOrderId : String := ""
  rawResponse : String := ""
  entryFilledQty : Float := 0
  entryOrderStatus : String := ""
  exitFilledQty : Float := 0
  exitOrderStatus : String := ""
  lastEventAt : Int := 0
  version : Int := 0
  reconciledCloseId : String := ""
  reconciledAt : Instant := none
  createdAt : Instant := none
  updatedAt : Instant := none
  closedAt : Instant := none
  deriving Repr, Inhabited

/-- Whether `id` was absorbed into this trade. -/
def Trade.hasAbsorbed (t : Trade) (id : String) : Bool := t.mergedTradeIds.contains id

end TradeLedger
