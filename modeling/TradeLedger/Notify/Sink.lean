import TradeLedger.Notify.Note
import TradeLedger.Json.GoText
import TradeLedger.Time.Civil
import TradeLedger.Number.Read
/-!
# Notification sinks

A sink delivers one notification and either succeeds, fails, or stops outright: a recorder, the
service log, a sink that always fails, a publisher that sends JSON on a channel, and a fan-out
over several of these. A fan-out fails when any part failed, and a part that stops stops it at
once, so later parts never see the notification.

## Main definitions

* `Sink`, `SinkPart`: a sink and its parts.
* `Sink.send`: one delivery, with what it leaves in the log.
-/

namespace TradeLedger

/-- How the recorder treats a title it is told about. -/
inductive SinkBehavior where
  | fail
  | stop
  deriving Repr, DecidableEq, Inhabited

inductive SinkPart where
  | record (behaviors : List (String × SinkBehavior))
  | log
  | failing
  | publish (channel : String)
  deriving Repr, Inhabited

/-- A sink, or a fan-out over several. -/
inductive Sink where
  | single (part : SinkPart)
  | fanOut (parts : List SinkPart)
  deriving Repr, Inhabited

inductive SendOutcome where
  | delivered
  | failed
  | stopped
  deriving Repr, DecidableEq, Inhabited

/-- What sinks leave behind: recorded notifications, published messages as channel and
payload, and the failure of the publisher's server, if it fails. -/
structure SinkLog where
  recorded : List Note := []
  published : List (String × String) := []
  serverFault : Option String := none
  deriving Inhabited

namespace Json

/-- Keep the last member of each key, in the order of those last members. -/
def lastWins (fields : List (String × Json)) : List (String × Json) :=
  (fields.reverse.foldl (fun (acc : List (String × Json)) f =>
    if acc.any (·.1 == f.1) then acc else acc ++ [f]) []).reverse

mutual
/-- A value as a decoder into untyped values gives it back: numbers as floats, and objects as
maps whose later members win, written in key order. -/
def untyped : Json → Json
  | .num t =>
    match readFloatText t with
    | .ok x => Json.ofFloat x
    | .error _ => .num t
  | .arr items => .arr (untypedList items)
  | .obj fields => .obj ((lastWins (untypedFields fields)).mergeSort fun a b => decide (a.1 ≤ b.1))
  | j => j

/-- `untyped` on each item. -/
def untypedList : List Json → List Json
  | [] => []
  | j :: rest => untyped j :: untypedList rest

/-- `untyped` on each member's value. -/
def untypedFields : List (String × Json) → List (String × Json)
  | [] => []
  | (k, v) :: rest => (k, untyped v) :: untypedFields rest
end

end Json

/-- The JSON text a publisher sends for a notification: level, source, title, message, the
fields when there are any, and the time; a time whose year does not have four digits cannot
be written. -/
def Note.payload (n : Note) : Except String String := do
  let fields := match Json.untyped (.obj n.fields) with
    | .obj [] => []
    | f => [("fields", f)]
  pure (Json.renderWeb (.obj ([("level", .str n.level.text), ("source", .str n.source),
    ("title", .str n.title), ("message", .str n.message)] ++ fields ++
    [("time", .str (← Instant.jsonText? n.time))])))

namespace SinkPart

/-- Deliver a notification through one sink. -/
def send (log : SinkLog) (n : Note) : SinkPart → SinkLog × SendOutcome
  | .record behaviors =>
    let log := { log with recorded := log.recorded ++ [n] }
    match behaviors.lookup n.title with
    | some .fail => (log, .failed)
    | some .stop => (log, .stopped)
    | none => (log, .delivered)
  | .log => (log, .delivered)
  | .failing => (log, .failed)
  | .publish channel =>
    match n.payload with
    | .error _ => (log, .failed)
    | .ok payload =>
      match log.serverFault with
      | some _ => (log, .failed)
      | none => ({ log with published := log.published ++ [(channel, payload)] }, .delivered)

end SinkPart

namespace Sink

/-- Deliver through parts in order; a stop ends the delivery, and any failure fails it. -/
def sendAll (log : SinkLog) (n : Note) (failedSoFar : Bool) : List SinkPart → SinkLog × SendOutcome
  | [] => (log, if failedSoFar then .failed else .delivered)
  | p :: rest =>
    match p.send log n with
    | (log, .stopped) => (log, .stopped)
    | (log, .failed) => sendAll log n true rest
    | (log, .delivered) => sendAll log n failedSoFar rest

/-- Deliver a notification. -/
def send (log : SinkLog) (n : Note) : Sink → SinkLog × SendOutcome
  | .single p => p.send log n
  | .fanOut parts => sendAll log n false parts

/-- Whether a sink publishes. -/
def publishes : Sink → Bool
  | .single (.publish _) => true
  | .fanOut parts => parts.any fun
    | .publish _ => true
    | _ => false
  | _ => false

end Sink

end TradeLedger
