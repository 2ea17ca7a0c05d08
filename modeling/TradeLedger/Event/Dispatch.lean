import TradeLedger.Event.Decode
import TradeLedger.Monitor.Metrics
/-!
# Dispatching events

The dispatcher decodes a frame and hands every event to the handlers registered for its kind, in
registration order. A handler that fails or panics is counted and the next one still runs; a
frame that does not fully decode is counted once, its good events still handed on. Handlers
share a state carrying the metrics.

## Main definitions

* `Dispatcher`, `Dispatcher.dispatch`: the registrations, and one frame's dispatch.
-/

namespace TradeLedger

/-- A state that carries the service metrics. -/
class Metered (σ : Type) where
  metrics : σ → Metrics
  setMetrics : σ → Metrics → σ

/-- Change the metrics of a state. -/
def Metered.tally {σ : Type} [Metered σ] (s : σ) (f : Metrics → Metrics) : σ :=
  Metered.setMetrics s (f (Metered.metrics s))

/-- Metrics beside any other state. -/
instance {α : Type} : Metered (Metrics × α) where
  metrics s := s.1
  setMetrics s m := (m, s.2)

/-- A handler over a state `σ`: the new state, and a failure text when it fails. -/
abbrev Handler (σ : Type) := σ → Event → σ × Except String Unit

/-- A registered handler: the kind it listens to, its name, and the handler. -/
structure Registration (σ : Type) where
  kind : String
  name : String
  handler : Handler σ

/-- Registered handlers, in registration order. -/
structure Dispatcher (σ : Type) where
  handlers : List (Registration σ) := []

namespace Dispatcher

/-- Register a handler for a kind. -/
def register {σ : Type} (d : Dispatcher σ) (kind name : String) (h : Handler σ) : Dispatcher σ :=
  { handlers := d.handlers ++ [⟨kind, name, h⟩] }

/-- How many handlers listen to a kind. -/
def count {σ : Type} (d : Dispatcher σ) (kind : String) : Nat :=
  (d.handlers.filter (·.kind == kind)).length

/-- Hand an event to every handler of its kind, counting the event and every failure. -/
def publish {σ : Type} [Metered σ] (d : Dispatcher σ) (s : σ) (e : Event) : σ :=
  let s := Metered.tally s fun m => { m with eventsDispatched := m.eventsDispatched + 1 }
  let s := (d.handlers.filter (·.kind == e.kind.text)).foldl (fun s r =>
    match r.handler s e with
    | (s, .ok ()) => s
    | (s, .error _) => Metered.tally s fun m => { m with handlerErrors := m.handlerErrors + 1 }) s
  Metered.tally s fun m => { m with dispatchLatency := m.dispatchLatency.time }

/-- Decode a frame and publish its events: the state, and the decode result. -/
def dispatch {σ : Type} [Metered σ] (d : Dispatcher σ) (s : σ) (frame : List UInt8) :
    σ × Decoded :=
  let s := Metered.tally s fun m => { m with framesReceived := m.framesReceived + 1 }
  let r := Frame.decode frame
  let s := if r.errors.isEmpty then s
    else Metered.tally s fun m => { m with decodeErrors := m.decodeErrors + 1 }
  (r.events.foldl d.publish s, r)

end Dispatcher

end TradeLedger
