import TradeLedger.Command.Codec
import TradeLedger.Trade.Resolve
import TradeLedger.Text.Base64
/-!
# Commands without state

Each command reads its arguments, calls one function of the library and writes the result.

## Main definitions

* `decodeFrame`, `decideFill`, `fill`, `containsId`: one command per function.
-/

namespace TradeLedger

namespace Command

def leg (j : Json) (key : String) : Input Leg := do
  match ← Input.text j key with
  | "exit" => pure .exit
  | "entry" => pure .entry
  | other => .error ("unknown leg " ++ quoteText other)

/-- The bytes of a frame argument: `frame_b64` as base64 bytes, else `frame` as text. -/
def frameBytes (j : Json) : Input (List UInt8) :=
  match Input.arg? j "frame_b64" with
  | some (.str s) =>
    match Base64.decode? .standard s with
    | some bs => pure bs
    | none => .error "frame_b64 is not base64"
  | _ => do pure (Utf8.encode (← Input.text j "frame"))

/-- `decode`: the events and errors of a frame. -/
def decodeFrame (j : Json) : Input Json := do
  pure (Frame.decode (← frameBytes j)).toJson

/-- `parse_order_status`: the status, its rank and whether it is terminal. -/
def parseStatus (j : Json) : Input Json := do
  let s := OrderStatus.parse (← Input.text j "status")
  pure (.obj [("status", .str s.text), ("rank", Json.ofNat s.rank), ("terminal", .bool s.terminal)])

/-- `decide_fill`: whether an event applies to a trade's leg. -/
def decideFill (j : Json) : Input Json := do
  let t ← Trade.ofJson (← Input.object j "trade")
  let l ← leg j "leg"
  let o ← OrderUpdate.ofJson (← Input.object j "order")
  let eventTime ← Input.int j "event_time"
  pure (TradeLedger.decideFill t l o eventTime).toJson

/-- `fill`: the decision, and when it applies (or is forced) the transition and the trade. -/
def fill (j : Json) : Input Json := do
  let t ← Trade.ofJson (← Input.object j "trade")
  let l ← leg j "leg"
  let o ← OrderUpdate.ofJson (← Input.object j "order")
  let eventTime ← Input.int j "event_time"
  let now ← Input.int j "now"
  let force ← Input.flag j "force"
  let d := TradeLedger.decideFill t l o eventTime
  if d.apply || force then
    let (t', tr) := applyFill t l o d eventTime now
    pure (.obj [("decision", d.toJson), ("transition", .str tr.text), ("trade", t'.toJson)])
  else pure (.obj [("decision", d.toJson)])

/-- `contains_id`: whole-token search. -/
def containsId (j : Json) : Input Json := do
  pure (.obj [("result", .bool (TradeLedger.containsId (← Input.text j "raw") (← Input.text j "id")))])

/-- `infer_leg`: the leg of an order found through a payload. -/
def inferLeg (j : Json) : Input Json := do
  let t : Trade := { side := TradeSide.ofText (← Input.text j "trade_side") }
  let side := OrderSide.ofText (← Input.text j "order_side")
  pure (.obj [("leg", .str (TradeLedger.inferLeg t side).text)])

/-- `leg_of`: the leg of an order found by id. -/
def legOf (j : Json) : Input Json := do
  let t ← Trade.ofJson (← Input.object j "trade")
  let o ← OrderUpdate.ofJson (← Input.object j "order")
  pure (.obj [("leg", .str (TradeLedger.legOf t o.orderId o.clientOrderId).text)])

end Command

end TradeLedger
