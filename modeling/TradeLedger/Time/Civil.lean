import TradeLedger.Time.Instant
/-!
# Calendar dates and RFC 3339 text

An instant is written in UTC as an RFC 3339 timestamp: the proleptic Gregorian date, the time
of day, a fraction of a second only when there is one (without trailing zeros), and `Z`. The
date of a day count is found by counting in eras of 400 years, starting each year in March so
that the leap day falls at the end of a year.

## Main definitions

* `civilOfDays`: the date of a day count.
* `Instant.rfc3339`: the timestamp of an instant.
-/

namespace TradeLedger

structure CivilDate where
  year : Int
  month : Nat
  day : Nat
  deriving Repr, DecidableEq, Inhabited

/-- The date `days` days after 1970-01-01 (before it when negative). -/
def civilOfDays (days : Int) : CivilDate :=
  let z := days + 719468
  let era := z / 146097
  let doe := z - era * 146097
  let yoe := (doe - doe / 1460 + doe / 36524 - doe / 146096) / 365
  let y := yoe + era * 400
  let doy := doe - (365 * yoe + yoe / 4 - yoe / 100)
  let mp := (5 * doy + 2) / 153
  let d := doy - (153 * mp + 2) / 5 + 1
  let m := if mp < 10 then mp + 3 else mp - 9
  { year := if m ≤ 2 then y + 1 else y, month := m.toNat, day := d.toNat }

/-- A number written with at least `width` digits. -/
def padded (width : Nat) (n : Nat) : String :=
  let s := toString n
  String.ofList (List.replicate (width - s.length) '0') ++ s

namespace Instant

/-- The date and the time of day of an instant in UTC, with the milliseconds as a fraction
only when there are some (without trailing zeros), joined by `sep`. A year is written with at
least four digits, a year before year 0 with a minus sign. -/
def dateTimeText (t : Instant) (sep : String) : String :=
  let ms := t.toMs
  let days := ms / 86400000
  let inDay := (ms % 86400000).toNat
  let date := civilOfDays days
  let secs := inDay / 1000
  let milli := inDay % 1000
  let yearText := if date.year < 0 then "-" ++ padded 4 date.year.natAbs
    else padded 4 date.year.toNat
  let frac := if milli == 0 then ""
    else
      let digits := (padded 3 milli).toList
      "." ++ String.ofList (digits.reverse.dropWhile (· == '0')).reverse
  yearText ++ "-" ++ padded 2 date.month ++ "-" ++ padded 2 date.day ++ sep ++
    padded 2 (secs / 3600) ++ ":" ++ padded 2 (secs / 60 % 60) ++ ":" ++ padded 2 (secs % 60) ++
    frac

/-- The RFC 3339 text of an instant in UTC, with the milliseconds as a fraction only when
there are some. -/
def rfc3339 (t : Instant) : String := dateTimeText t "T" ++ "Z"

/-- The text a database keeps for an instant: the date, a blank, the time of day with its
fraction, and the zone as `+0000 UTC`. For years 0 to 9999 these texts sort as their instants
do. -/
def storedText (t : Instant) : String := dateTimeText t " " ++ " +0000 UTC"

/-- The year of an instant, in UTC. -/
def year (t : Instant) : Int := (civilOfDays (t.toMs / 86400000)).year

/-- Whether an instant's year is written with four digits: years 0 to 9999. A time of another
year cannot be written as JSON, and its stored text does not read back as a time. -/
def hasFourDigitYear (t : Instant) : Bool := 0 ≤ t.year && t.year ≤ 9999

/-- The RFC 3339 text of an instant as a JSON writer gives it: only for a year with four
digits. -/
def jsonText? (t : Instant) : Except String String :=
  if t.hasFourDigitYear then .ok t.rfc3339
  else .error "json: error calling MarshalJSON for type time.Time: Time.MarshalJSON: year outside of range [0,9999]"

end Instant

end TradeLedger
