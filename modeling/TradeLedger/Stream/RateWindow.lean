/-!
# Frame rate window

A connection counts the frames it handles in a window; a frame beyond the limit is refused
until the window is reset. A limit that is not positive refuses nothing.

## Main definitions

* `RateWindow`: the count and limit, with `allow` and `reset`.
-/

namespace TradeLedger

/-- Frames counted in the current window, and the limit. -/
structure RateWindow where
  limit : Int
  count : Nat := 0
  deriving Repr, Inhabited

namespace RateWindow

/-- Count one frame; whether it is within the limit. -/
def allow (w : RateWindow) : RateWindow × Bool :=
  let w := { w with count := w.count + 1 }
  (w, w.limit ≤ 0 || (w.count : Int) ≤ w.limit)

/-- Start a new window. -/
def reset (w : RateWindow) : RateWindow := { w with count := 0 }

end RateWindow

end TradeLedger
