import TradeLedger.Notify.Sink
/-!
# The notifier

The notifier hands notifications to a sink without making its callers wait: a bounded queue
drained by a fixed number of workers. A notification that finds the queue full is dropped and
counted; a closed notifier accepts nothing; closing lets everything accepted be delivered.
Deliveries may be held, each worker keeping the notification it took until released. A queue
size or worker count that is not positive means 256 and 2.

## Main definitions

* `Notifier`, `Notifier.new`: the notifier as made.
* `Notifier.notify`, `Notifier.close`: the calls.
-/

namespace TradeLedger

/-- The notifier's counters: waiting in the queue, sent, failed and dropped. -/
structure NotifyStats where
  queued : Nat := 0
  sent : Nat := 0
  failed : Nat := 0
  dropped : Nat := 0
  deriving Repr, Inhabited, DecidableEq

/-- The notifier: its capacity, workers and sink; whether deliveries are held, the
notifications the workers took while held, the queue, whether it is closed, how many
deliveries were started, its counters, and what the sink left behind. -/
structure Notifier where
  capacity : Nat
  workers : Nat
  sink : Sink
  held : Bool := false
  taken : List Note := []
  queue : List Note := []
  closed : Bool := false
  started : Nat := 0
  sent : Nat := 0
  failed : Nat := 0
  dropped : Nat := 0
  log : SinkLog := {}
  deriving Inhabited

namespace Notifier

/-- A notifier over a sink; sizes that are not positive take their defaults. -/
def new (queueSize workers : Int) (sink : Sink) (held : Bool) : Notifier :=
  { capacity := if queueSize ≤ 0 then 256 else queueSize.toNat
    workers := if workers ≤ 0 then 2 else workers.toNat
    sink, held }

/-- Deliver one notification and count the outcome. -/
def deliver (n : Notifier) (note : Note) : Notifier :=
  let (log, outcome) := n.sink.send n.log note
  match outcome with
  | .delivered => { n with log, sent := n.sent + 1 }
  | _ => { n with log, failed := n.failed + 1 }

/-- Deliver notifications in order. -/
def deliverAll (n : Notifier) (notes : List Note) : Notifier := notes.foldl deliver n

/-- Accept a notification if the notifier is open and has room: a free worker takes it (and
delivers it unless deliveries are held), else it waits in the queue, else it is dropped. -/
def notify (n : Notifier) (note : Note) : Notifier × Bool :=
  if n.closed then (n, false)
  else if !n.held then ({ n.deliver note with started := n.started + 1 }, true)
  else if n.taken.length < n.workers then
    ({ n with taken := n.taken ++ [note], started := n.started + 1 }, true)
  else if n.queue.length < n.capacity then ({ n with queue := n.queue ++ [note] }, true)
  else ({ n with dropped := n.dropped + 1 }, false)

/-- Release held deliveries: what the workers took, then the queue. -/
def release (n : Notifier) : Notifier :=
  let done := n.deliverAll (n.taken ++ n.queue)
  { done with held := false, taken := [], queue := [], started := n.started + n.queue.length }

/-- Stop accepting notifications and deliver everything accepted. -/
def close (n : Notifier) : Notifier :=
  if n.closed then n else { n.release with closed := true }

/-- The counters. -/
def stats (n : Notifier) : NotifyStats :=
  { queued := n.queue.length, sent := n.sent, failed := n.failed, dropped := n.dropped }

end Notifier

end TradeLedger
