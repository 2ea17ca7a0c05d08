import TradeLedger.Time.Instant
/-!
# Writing durations

A duration is written in the largest units that fit, down to hours: `1h2m3.5s`, `4m59s`,
`0s`. Below one second a single unit is used (`1.5ms`). A fraction never ends in a zero.
Rounding to a multiple goes to the nearest one, a half away from zero, and stops at the ends
of the 64-bit range instead of wrapping.

## Main definitions

* `Duration.text`: the text of a duration.
* `Duration.round`: rounding to a multiple.
-/

namespace TradeLedger

namespace Duration

/-- The fraction of `v` in units of `10 ^ places`, as `.ddd` without trailing zeros (empty when
it is zero), and the whole units. -/
def fraction (v places : Nat) : String × Nat :=
  let unit := Nat.pow 10 places
  let frac := v % unit
  if frac = 0 then ("", v / unit)
  else
    let digits := Nat.toDigits 10 frac
    let padded := List.replicate (places - digits.length) '0' ++ digits
    let trimmed := (padded.reverse.dropWhile (· == '0')).reverse
    ("." ++ String.ofList trimmed, v / unit)

/-- The written form of a magnitude in nanoseconds. -/
def magnitudeText (u : Nat) : String :=
  if u < 1000000000 then
    if u = 0 then "0s"
    else if u < 1000 then toString u ++ "ns"
    else if u < 1000000 then
      let (f, w) := fraction u 3
      toString w ++ f ++ "µs"
    else
      let (f, w) := fraction u 6
      toString w ++ f ++ "ms"
  else
    let (f, secs) := fraction u 9
    let mins := secs / 60
    let secText := toString (secs % 60) ++ f ++ "s"
    if mins = 0 then secText
    else
      let hours := mins / 60
      let minText := toString (mins % 60) ++ "m" ++ secText
      if hours = 0 then minText else toString hours ++ "h" ++ minText

/-- The written form of a duration. -/
def text (d : Duration) : String :=
  if d < 0 then "-" ++ magnitudeText d.natAbs else magnitudeText d.natAbs

/-- The multiple of `m` nearest to `d`, a half away from zero; `d` itself when `m` is not
positive. A result beyond the 64-bit range is the range's end. -/
def round (d m : Duration) : Duration :=
  if m ≤ 0 then d
  else
    let r := (d.tmod m).natAbs
    if r + r < m.natAbs then
      if d < 0 then d + r else d - r
    else if d < 0 then saturate (d - m + r)
    else saturate (d + m - r)

end Duration

end TradeLedger
