import TradeLedger.Time.Instant
/-!
# Request weight

The tracker keeps the venue's last report of used request weight and the end of its window; a
report after the window's end opens a new window, ending one window length after the instant
truncated to a multiple of the window (counted from the zero instant). Signed requests pause
until the window ends once the used share reaches ninety percent.

## Main definitions

* `WeightTracker`: the last report and window, with `observe` and `pause`.
-/

namespace TradeLedger

/-- Round down to a multiple of `d` counted from the zero instant; unchanged when `d` is not
positive. -/
def Instant.truncate (t : Instant) (d : Duration) : Instant :=
  let step := Duration.toMs d
  if step ≤ 0 then t
  else
    let since := t.toMs - Instant.zeroMs
    Instant.ofMs (t.toMs - since % step)

/-- The weight used in the current window. -/
structure WeightUsage where
  used : Int := 0
  limit : Int := 0
  percent : Float := 0
  windowEnds : Instant := none
  deriving Repr, Inhabited

structure WeightTracker where
  limit : Int
  window : Duration
  pauseAt : Float := 90
  used : Int := 0
  windowEnd : Instant := none
  warned : Bool := false
  deriving Repr, Inhabited

namespace WeightTracker

/-- The used share in percent; 0 without a positive limit. -/
def percent (w : WeightTracker) : Float :=
  if w.limit ≤ 0 then 0 else Float.ofInt w.used / Float.ofInt w.limit * 100

/-- Take a report of used weight: a non-negative decimal integer, or nothing. -/
def observe (w : WeightTracker) (now : Instant) (used : Option Int) : WeightTracker :=
  match used with
  | none => w
  | some u =>
    if u < 0 then w
    else
      let w := if w.windowEnd.toMs < now.toMs then
          { w with windowEnd := (now.truncate w.window).addMs (Duration.toMs w.window),
                   warned := false }
        else w
      let w := { w with used := u }
      if 80 ≤ w.percent && !w.warned then { w with warned := true } else w

/-- The weight used in the current window; nothing once it has ended. -/
def usage (w : WeightTracker) (now : Instant) : WeightUsage :=
  if !(now.toMs < w.windowEnd.toMs) then { limit := w.limit }
  else { used := w.used, limit := w.limit, percent := w.percent, windowEnds := w.windowEnd }

/-- How long signed requests must pause, if they must. -/
def pause (w : WeightTracker) (now : Instant) : Option Duration :=
  let u := w.usage now
  if u.percent < w.pauseAt then none else some (Instant.sub u.windowEnds now)

end WeightTracker

end TradeLedger
