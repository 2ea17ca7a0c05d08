import TradeLedger.Venue.Order
import TradeLedger.Frame.Scan
/-!
# Stream events

What a frame of the venue's streams can carry: an execution report, an account snapshot, a price
tick, or the notice that the listen key expired, each with the venue's name for it, its event
time and its stream. A frame that cannot be read, or an event that lacks what its consumers
need, gives an error instead, one per bad element.

## Main definitions

* `Event`, `Payload`: an event and what it carries.
* `DecodeError`: an error of a frame's element.
-/

namespace TradeLedger

/-- One asset of an account snapshot. -/
structure Balance where
  asset : String
  free : Float
  locked : Float
  deriving Repr, Inhabited

/-- A full or partial balance snapshot. -/
structure AccountSnapshot where
  balances : List Balance
  deriving Repr, Inhabited

/-- Where a price came from: the 24-hour ticker's last price, or the mark price stream. -/
inductive PriceSource where
  | last
  | mark
  deriving Repr, DecidableEq, Inhabited

def PriceSource.text : PriceSource → String
  | .last => "last"
  | .mark => "mark"

/-- A last or mark price update. -/
structure Ticker where
  symbol : String
  price : Float
  source : PriceSource
  deriving Repr, Inhabited

/-- The four kinds of events. -/
inductive EventKind where
  | orderUpdate
  | accountSnapshot
  | ticker
  | listenKeyExpired
  deriving Repr, DecidableEq, Inhabited

def EventKind.text : EventKind → String
  | .orderUpdate => "order_update"
  | .accountSnapshot => "account_snapshot"
  | .ticker => "ticker"
  | .listenKeyExpired => "listen_key_expired"

/-- What an event carries; the listen-key notice carries nothing. -/
inductive Payload where
  | order (o : OrderUpdate)
  | account (a : AccountSnapshot)
  | ticker (t : Ticker)
  | listenKeyExpired
  deriving Repr, Inhabited

def Payload.kind : Payload → EventKind
  | .order _ => .orderUpdate
  | .account _ => .accountSnapshot
  | .ticker _ => .ticker
  | .listenKeyExpired => .listenKeyExpired

/-- A decoded stream event. -/
structure Event where
  /-- the venue's name for the event, such as `ORDER_TRADE_UPDATE` -/
  type : String
  eventTime : Int
  stream : String
  payload : Payload
  deriving Repr, Inhabited

/-- The kind of an event. -/
def Event.kind (e : Event) : EventKind := e.payload.kind

/-- What is wrong with a known event. -/
inductive EventFault where
  | frame (f : FrameFault)
  | price (f : FrameFault)
  | missingOrder
  | symbolRequired
  | orderIdRequired
  | unknownStatus
  | negativeQuantity
  | tickerIncomplete
  deriving Repr, DecidableEq

def EventFault.message : EventFault → String
  | .frame f => f.message
  | .price f => "price: " ++ f.message
  | .missingOrder => "missing order object"
  | .symbolRequired => "symbol required"
  | .orderIdRequired => "order id required"
  | .unknownStatus => "unknown order status"
  | .negativeQuantity => "negative cumulative quantity"
  | .tickerIncomplete => "symbol and positive price required"

/-- Why an element of a frame gave no event. -/
inductive DecodeError where
  /-- the element is empty -/
  | empty
  /-- the element is neither an object nor an array; its first byte -/
  | unexpected (b : UInt8)
  /-- the element could not be read -/
  | unreadable (f : FrameFault)
  /-- a known event type whose body is wrong -/
  | invalid (eventType : String) (f : EventFault)
  deriving Repr, DecidableEq

/-- The two classes of decode errors: frames that are not JSON objects or arrays, and known
events missing what they need. -/
inductive DecodeErrorClass where
  | malformed
  | invalidEvent
  deriving Repr, DecidableEq

def DecodeError.errorClass : DecodeError → DecodeErrorClass
  | .invalid _ _ => .invalidEvent
  | _ => .malformed

def DecodeError.message : DecodeError → String
  | .empty => "malformed frame: empty"
  | .unexpected b => "malformed frame: unexpected " ++ quoteCodePoint b.toNat
  | .unreadable f => "malformed frame: " ++ f.message
  | .invalid t f => t ++ ": invalid event: " ++ f.message

end TradeLedger
