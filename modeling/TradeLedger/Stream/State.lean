/-!
# The connection lifecycle

A stream connection moves through six states. From disconnected it may only start
connecting; a connection attempt ends connected or in error; a live connection may fail or be
closed; after an error or a close it reconnects, and reconnecting starts a new attempt. Any
state may close. A state named by text outside the six has no moves but the close.

## Main definitions

* `StreamState`: the six states.
* `StreamState.canTransition`, `StreamState.transition`: the allowed moves and taking one.
-/

namespace TradeLedger

/-- The lifecycle state of a connection. -/
inductive StreamState where
  | disconnected
  | connecting
  | connected
  | faulted
  | closed
  | reconnecting
  | other (text : String)
  deriving Repr, DecidableEq, Inhabited

namespace StreamState

/-- The state's name. -/
def text : StreamState → String
  | .disconnected => "DISCONNECTED"
  | .connecting => "CONNECTING"
  | .connected => "CONNECTED"
  | .faulted => "ERROR"
  | .closed => "CLOSED"
  | .reconnecting => "RECONNECTING"
  | .other t => t

/-- The state named `t`. -/
def ofText (t : String) : StreamState :=
  match t with
  | "DISCONNECTED" => .disconnected
  | "CONNECTING" => .connecting
  | "CONNECTED" => .connected
  | "ERROR" => .faulted
  | "CLOSED" => .closed
  | "RECONNECTING" => .reconnecting
  | _ => .other t

/-- The states a state may move to, besides closing. -/
def successors : StreamState → List StreamState
  | .disconnected => [.connecting]
  | .connecting => [.connected, .faulted]
  | .connected => [.faulted, .closed]
  | .faulted => [.reconnecting]
  | .closed => [.reconnecting]
  | .reconnecting => [.connecting]
  | .other _ => []

/-- Whether `s` may move to `next`. Any state may close. -/
def canTransition (s next : StreamState) : Bool :=
  next == .closed || s.successors.contains next

/-- The text of a refused move. -/
def refusal (s next : StreamState) : String :=
  "invalid state transition: " ++ s.text ++ " -> " ++ next.text

/-- Move to `next`, or refuse with the text naming both states. -/
def transition (s next : StreamState) : Except String StreamState :=
  if s.canTransition next then .ok next else .error (s.refusal next)

end StreamState

end TradeLedger
