import TradeLedger.Notify.Notifier
import TradeLedger.Command.Steps
import TradeLedger.Command.MarketSteps
/-!
# The notifier command

A notifier over a chosen sink, driven by steps: notifications, waiting for deliveries to start,
releasing held deliveries, failing the publisher's server, closing, and the counters. The
answer adds the counters after closing, what the recorder kept, and what was published. A
notification without a time is stamped with the machine's clock when it is accepted.

## Main definitions

* `notifyStep`: one step.
* `notify`: the command's answer.
-/

namespace TradeLedger

/-- A notification from its JSON form. -/
def Note.ofJson (j : Json) : Input Note := do
  pure { level := NoteLevel.ofText (← Input.text j "level"), source := ← Input.text j "source",
         title := ← Input.text j "title", message := ← Input.text j "message",
         fields := ← Input.members j "fields", time := ← Input.time j "time" }

/-- The marker of a time taken from the machine's clock. -/
def nowMarker : String := "<now>"

/-- The JSON form of a delivered notification. -/
def Note.toJson (n : Note) : Json :=
  .obj [("level", .str n.level.text), ("source", .str n.source), ("title", .str n.title),
    ("message", .str n.message), ("fields", Json.untyped (.obj n.fields)),
    ("time", match n.time with
      | some t => Json.ofInt t
      | none => .str nowMarker)]

/-- The JSON form of the counters. -/
def NotifyStats.toJson (s : NotifyStats) : Json :=
  .obj [("queued", Json.ofNat s.queued), ("sent", Json.ofNat s.sent),
    ("failed", Json.ofNat s.failed), ("dropped", Json.ofNat s.dropped)]

namespace Command

/-- The recorder's behaviors from a request. -/
def behaviorsOf (j : Json) : Input (List (String × SinkBehavior)) := do
  (← Input.members j "behaviors").mapM fun (title, v) =>
    match v with
    | .str "panic" => pure (title, SinkBehavior.stop)
    | _ => pure (title, SinkBehavior.fail)

def sinkPartOf (behaviors : List (String × SinkBehavior)) (channel : String) :
    String → Input SinkPart
  | "record" => pure (.record behaviors)
  | "log" => pure .log
  | "fail" => pure .failing
  | "redis" => pure (.publish channel)
  | other => throw ("unknown sink " ++ quoteText other)

/-- The sink a request names; `record` by default. -/
def sinkOf (j : Json) : Input Sink := do
  let behaviors ← behaviorsOf j
  let channel ← Input.text j "channel"
  match ← Input.text j "sink" with
  | "" => pure (.single (.record behaviors))
  | "multi" =>
    let names ← Input.texts j "multi"
    pure (.fanOut (← names.mapM (sinkPartOf behaviors channel)))
  | "redis" => pure (.single (.publish channel))
  | name => pure (.single (← sinkPartOf behaviors channel name))

/-- One step of the notifier command. -/
def notifyStep (n : Notifier) (j : Json) : Input (Notifier × Json) := do
  match ← Input.text j "op" with
  | "notify" =>
    let note ← Note.ofJson (← Input.object j "note")
    if n.sink.publishes && note.time.isNone then throw "redis notes need a time"
    let (n, accepted) := n.notify note
    pure (n, .obj [("accepted", .bool accepted)])
  | "await_busy" =>
    let count ← Input.int j "count"
    pure (n, .obj [("busy", .bool (decide (count ≤ (n.started : Int))))])
  | "release" => pure (n.release, okAnswer)
  | "redis_error" =>
    if !n.sink.publishes then throw "redis_error needs the redis sink"
    let message ← Input.text j "message"
    pure ({ n with log := { n.log with serverFault := some message } }, okAnswer)
  | "close" => pure (n.close, okAnswer)
  | "stats" =>
    pure (n, .obj [("stats", n.stats.toJson), ("metrics_dropped", Json.ofNat n.dropped)])
  | _ => unknownStep "notify" j

/-- `notify`: a notifier driven by steps. -/
def notify (j : Json) : Input Json := do
  if ← Input.flag j "nil" then
    return .obj [("accepted", .bool false), ("stats", ({} : NotifyStats).toJson)]
  let sink ← sinkOf j
  let n := Notifier.new (← Input.int j "queue_size") (← Input.int j "workers") sink
    (← Input.flag j "hold")
  let (n, answers) := runSteps notifyStep n (← Input.list j "ops")
  let n := n.close
  let recorded := if n.workers ≤ 1 then n.log.recorded
    else n.log.recorded.mergeSort fun a b =>
      decide (a.title < b.title) || (a.title == b.title && decide (a.message ≤ b.message))
  let published := (n.log.published.mergeSort fun a b => decide (a.2 ≤ b.2)).map fun (c, p) =>
    Json.obj [("channel", .str c), ("payload", .str p)]
  pure (.obj ([("steps", .arr answers), ("final", n.stats.toJson),
    ("delivered", .arr (recorded.map Note.toJson))] ++
    (if sink.publishes then [("published", .arr published)] else [])))

end Command

end TradeLedger
