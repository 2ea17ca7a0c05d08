import TradeLedger.Time.Instant
import TradeLedger.Fault
/-!
# Pacing the history queries

Queries to the venue's history are spaced by a token bucket holding one token that refills once
per interval. Time is the time the pacer spends waiting, on which a run may carry a deadline; a
wait that would end after it is refused at once and takes no token.

## Main definitions

* `Pacer`, `Pacer.wait`: the bucket and a wait for its token.
-/

namespace TradeLedger

/-- A token bucket of one token refilled every `interval`, on its own clock. -/
structure Pacer where
  interval : Duration := 0
  /-- time spent waiting so far -/
  clock : Int := 0
  /-- when the next token is due -/
  nextFree : Int := 0
  deriving Repr, Inhabited

namespace Pacer

/-- The refusal of a wait that would end after the deadline. -/
def pastDeadline : Fault := Fault.plain "rate: Wait(n=1) would exceed context deadline"

/-- Take a token: at once when it is due, else after waiting for it. With a deadline, a wait
that would end after it is refused and nothing changes. -/
def wait (p : Pacer) (deadline : Option Int) : Except Fault Pacer :=
  if p.interval ≤ 0 then pure p
  else
    let grant := max p.clock p.nextFree
    match deadline with
    | some d => if d - p.clock < grant - p.clock then .error pastDeadline else
        pure { p with clock := grant, nextFree := grant + p.interval }
    | none => pure { p with clock := grant, nextFree := grant + p.interval }

/-- Whether the deadline, if any, has passed on the pacer's clock. -/
def overdue (p : Pacer) (deadline : Option Int) : Bool :=
  match deadline with
  | some d => decide (d ≤ p.clock)
  | none => false

end Pacer

end TradeLedger
