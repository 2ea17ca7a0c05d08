/-!
# Latency histograms

A histogram keeps a sliding window of latency samples in milliseconds, the oldest making room
when full. Its statistics sort the window with NaN first, then take the extremes, the mean, and
the samples at the 50th, 95th and 99th percent positions, each the truncated product of the
count and the fraction.

## Main definitions

* `LatencyHistogram`, `LatencyHistogram.stats`: the window and its statistics.
-/

namespace TradeLedger

/-- A sliding window of latency samples, in milliseconds. -/
structure LatencyHistogram where
  samples : List Float := []
  capacity : Nat := 1000
  deriving Repr, Inhabited

/-- Statistics of a window; all zero for an empty one. -/
structure LatencyStats where
  min : Float := 0
  max : Float := 0
  avg : Float := 0
  p50 : Float := 0
  p95 : Float := 0
  p99 : Float := 0
  count : Nat := 0
  deriving Repr, Inhabited

namespace LatencyHistogram

/-- An empty window; a capacity that is not positive means 1000. -/
def empty (size : Int) : LatencyHistogram :=
  { capacity := if size ≤ 0 then 1000 else size.toNat }

/-- Add a sample, dropping the oldest when the window is full. -/
def record (h : LatencyHistogram) (ms : Float) : LatencyHistogram :=
  let kept := if h.samples.length ≥ h.capacity then h.samples.drop 1 else h.samples
  { h with samples := kept ++ [ms] }

/-- Add a sample given in nanoseconds. -/
def recordNs (h : LatencyHistogram) (ns : Int) : LatencyHistogram :=
  h.record (Float.ofInt ns / 1000000)

/-- Float order with NaN before every number. -/
def floatBefore (x y : Float) : Bool := x < y || (x.isNaN && !y.isNaN)

/-- The window sorted with NaN first. -/
def sorted (h : LatencyHistogram) : List Float :=
  h.samples.mergeSort fun x y => !floatBefore y x

/-- The sample at the truncated position `n * fraction` of a sorted window of `n`. -/
def atFraction (xs : List Float) (fraction : Float) : Float :=
  xs.getD (Float.toUInt64 (Float.ofNat xs.length * fraction)).toNat 0

/-- The window's statistics. -/
def stats (h : LatencyHistogram) : LatencyStats :=
  let xs := h.sorted
  let n := xs.length
  if n = 0 then {}
  else
    { min := xs.getD 0 0, max := xs.getD (n - 1) 0,
      avg := xs.foldl (· + ·) 0 / Float.ofNat n,
      p50 := xs.getD (n / 2) 0, p95 := atFraction xs 0.95, p99 := atFraction xs 0.99, count := n }

end LatencyHistogram

end TradeLedger
