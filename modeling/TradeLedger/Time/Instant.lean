/-!
# Instants and durations

An instant is a number of milliseconds since the unix epoch, or unset. Unset is the zero
instant, midnight of January 1 of year 1, which is not the epoch. A duration is a signed number
of nanoseconds that fits in 64 bits. The distance between two instants saturates at the ends of
that range, and the magnitude of the most negative duration is itself, as two's-complement
negation gives.

## Main definitions

* `Instant`, `Duration`: the two kinds of time.
* `Instant.sub`: the saturating distance.
-/

namespace TradeLedger

/-- An instant in unix milliseconds, `none` when unset. -/
abbrev Instant := Option Int

/-- A signed duration in nanoseconds. -/
abbrev Duration := Int

/-- A float cut toward zero into the 64-bit range; NaN and a float at or past the range's ends
become its least value, as the machine's conversion gives. -/
def truncateToInt64 (x : Float) : Int :=
  if x.isNaN || x ≥ 9223372036854775808.0 || x < -9223372036854775808.0 then -(Int.pow 2 63)
  else if x < 0 then -((-x).toUInt64.toNat : Int)
  else (x.toUInt64.toNat : Int)

namespace Duration

/-- Nanoseconds per millisecond. -/
def perMs : Int := 1000000

/-- Nanoseconds per second. -/
def perSecond : Int := 1000000000

/-- The smallest duration. -/
def min : Int := -(Int.pow 2 63)

/-- The largest duration. -/
def max : Int := Int.pow 2 63 - 1

/-- Clamp to the 64-bit range. -/
def saturate (d : Int) : Duration := if d < min then min else if max < d then max else d

/-- Magnitude; the most negative duration is its own negation. -/
def abs (d : Duration) : Duration := if d < 0 ∧ d ≠ min then -d else d

/-- Milliseconds as a duration. -/
def ofMs (ms : Int) : Duration := ms * perMs

/-- Whole milliseconds of a duration, truncated toward zero. -/
def toMs (d : Duration) : Int := d.tdiv perMs

end Duration

namespace Instant

/-- Unix milliseconds of the zero instant. -/
def zeroMs : Int := -62135596800000

/-- Unix milliseconds of an instant; unset is the zero instant. -/
def toMs : Instant → Int
  | none => zeroMs
  | some t => t

/-- The instant of unix milliseconds; the zero instant's milliseconds give unset. -/
def ofMs (t : Int) : Instant := if t = zeroMs then none else some t

/-- Whether an instant is unset. -/
def isZero (t : Instant) : Bool := t.isNone

/-- The instant some milliseconds after `t`. -/
def addMs (t : Instant) (ms : Int) : Instant := ofMs (t.toMs + ms)

/-- `t - u` in nanoseconds, saturating at the 64-bit range. -/
def sub (t u : Instant) : Duration := Duration.saturate ((t.toMs - u.toMs) * Duration.perMs)

end Instant

end TradeLedger
