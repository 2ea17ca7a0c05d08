import TradeLedger.Sql.Format
/-!
# Dates and times

The date and time functions read a time value, apply modifiers in turn, and write the result. A
time value is a date with an optional time and zone, a time alone, `now`, or a julian day
number; a modifier adds units, a time or a date, moves to the start of a day, month or year or
to a weekday, or says how a number reads. Anything unreadable, or outside the years 0000 to 9999,
gives null. A day past its month's end rolls into the next month unless `floor` takes it back.

## Main definitions

* `Moment`: a time as a julian day in milliseconds, with the fields read.
-/

namespace TradeLedger

namespace SqlClock

open SqlNumber

/-- A time being computed: julian day in milliseconds, date, time of day and zone, each with
whether known; a day's overflow past its month's end; whether `second` is a number still to be
read; universal or local; whether results show milliseconds; and whether it failed. -/
structure Moment where
  jd : Int := 0
  year : Int := 0
  month : Int := 0
  day : Int := 0
  hour : Int := 0
  minute : Int := 0
  zone : Int := 0
  second : Float := 0.0
  hasJd : Bool := false
  hasDate : Bool := false
  hasTime : Bool := false
  overflow : Int := 0
  raw : Bool := false
  failed : Bool := false
  subsecond : Bool := false
  utc : Bool := false
  isLocal : Bool := false
  deriving Inhabited

/-- The julian day of the unix epoch, in milliseconds. -/
def epochJd : Int := 210866760000000

/-- The last julian day in milliseconds a time may have: the end of the year 9999. -/
def lastJd : Int := 464269060799999

/-- Whether a julian day in milliseconds is within the years the functions handle. -/
def validJd (jd : Int) : Bool := 0 ≤ jd && jd ≤ lastJd

/-- A fixed-width field of digits: its width, least and greatest value, and the character that
must follow it, if any. -/
structure Field where
  width : Nat
  least : Nat
  most : Nat
  next : Option Char

/-- Read fields in turn: the values read, stopping at the first field that is not there. -/
def readFields : List Field → List Char → List Nat
  | [], _ => []
  | f :: rest, cs =>
    let ds := cs.take f.width
    if ds.length < f.width || !ds.all Char.isDigit then []
    else
      let v := digitsValue ds
      let after := cs.drop f.width
      if v < f.least || f.most < v then []
      else match f.next with
        | none => [v]
        | some c => if after.head? = some c then v :: readFields rest (after.drop 1) else []

/-- A failed computation. -/
def failure : Moment := { failed := true }

/-- Forget the date, the time of day and the time zone. -/
def Moment.clearFields (p : Moment) : Moment :=
  { p with hasDate := false, hasTime := false, zone := 0 }

/-- The julian day from the date and time of day (2000-01-01 when there is no date); a time
zone is taken off, leaving a universal time. -/
def Moment.withJd (p : Moment) : Moment :=
  if p.hasJd then p
  else
    let (y, m, d) := if p.hasDate then (p.year, p.month, p.day) else (2000, 1, 1)
    if y < -4713 || 9999 < y || p.raw then failure
    else
      let (y, m) := if m ≤ 2 then (y - 1, m + 12) else (y, m)
      let a := Int.tdiv (y + 4800) 100
      let b := 38 - a + Int.tdiv a 4
      let x1 := Int.tdiv (36525 * (y + 4716)) 100
      let x2 := Int.tdiv (306001 * (m + 1)) 10000
      let jd := ((x1 + x2 + d + b) * 2 - 3049) * 43200000
      let p := { p with jd, hasJd := true }
      if p.hasTime then
        let jd := p.jd + p.hour * 3600000 + p.minute * 60000 + truncate (p.second * 1000.0 + 0.5)
        if p.zone ≠ 0 then
          { p with jd := jd - p.zone * 60000, hasDate := false, hasTime := false, zone := 0,
                   utc := true, isLocal := false }
        else { p with jd }
      else p

/-- The date from the julian day (2000-01-01 when there is none). -/
def Moment.withDate (p : Moment) : Moment :=
  if p.hasDate then p
  else if !p.hasJd then { p with year := 2000, month := 1, day := 1, hasDate := true }
  else if !validJd p.jd then failure
  else
    let z := (p.jd + 43200000) / 86400000
    let alpha := (4 * z + 128179) / 146097 - 52
    let a := z + 1 + alpha - (alpha + 100) / 4 + 25
    let b := a + 1524
    let c := (20 * b - 2442) / 7305
    let d := (36525 * (c % 32768)) / 100
    let e := ((b - d) * 10000) / 306001
    let x1 := (306001 * e) / 10000
    let day := b - d - x1
    let month := if e < 14 then e - 1 else e - 13
    let year := if 2 < month then c - 4716 else c - 4715
    { p with year, month, day, hasDate := true }

/-- The time of day from the julian day. -/
def Moment.withTime (p : Moment) : Moment :=
  if p.hasTime then p
  else
    let p := p.withJd
    let dayMs := Int.tmod (p.jd + 43200000) 86400000
    let dayMin := Int.tdiv dayMs 60000
    { p with second := Float.ofInt (Int.tmod dayMs 60000) / 1000.0, minute := Int.tmod dayMin 60,
             hour := Int.tdiv dayMin 60, raw := false, hasTime := true }

/-- Both the date and the time of day. -/
def Moment.withFields (p : Moment) : Moment := p.withDate.withTime

/-- The days a day past the end of its month overflows by. -/
def Moment.withOverflow (p : Moment) : Moment :=
  let overflow :=
    if p.day ≤ 28 then 0
    else if [1, 3, 5, 7, 8, 10, 12].contains p.month then 0
    else if p.month ≠ 2 then (if p.day = 31 then 1 else 0)
    else if Int.tmod p.year 4 ≠ 0 || (Int.tmod p.year 100 = 0 && Int.tmod p.year 400 ≠ 0) then
      p.day - 28
    else p.day - 29
  { p with overflow }

/-- A time zone after a time: nothing, `Z`, or `±HH:MM`, with spaces around it. -/
def readZone (cs : List Char) (p : Moment) : Option Moment :=
  let cs := cs.dropWhile isSpace
  let p := { p with zone := 0 }
  match cs with
  | [] => some p
  | c :: rest =>
    if c = '-' || c = '+' then
      match readFields [⟨2, 0, 14, some ':'⟩, ⟨2, 0, 59, none⟩] rest with
      | [h, m] =>
        if ((rest.drop 5).dropWhile isSpace).isEmpty then
          some { p with zone := (if c = '-' then -1 else 1) * ((m : Int) + h * 60) }
        else none
      | _ => none
    else if c = 'Z' || c = 'z' then
      if (rest.dropWhile isSpace).isEmpty then some { p with isLocal := false, utc := true }
      else none
    else none

/-- The seconds' fraction after a point: the digits as a fraction, at most 0.999. -/
def fraction (ds : List Char) : Float :=
  let (ms, scale) := ds.foldl (fun (acc : Float × Float) c =>
    (acc.1 * 10.0 + Float.ofNat (c.toNat - '0'.toNat), acc.2 * 10.0)) (0.0, 1.0)
  let ms := ms / scale
  if 0.999 < ms then 0.999 else ms

/-- A time of day `HH:MM`, `HH:MM:SS` or `HH:MM:SS.SSS…` and its time zone. -/
def readTime (cs : List Char) (p : Moment) : Option Moment :=
  match readFields [⟨2, 0, 24, some ':'⟩, ⟨2, 0, 59, none⟩] cs with
  | [h, m] =>
    let cs := cs.drop 5
    let secs : Option (Float × List Char) :=
      match cs with
      | ':' :: rest =>
        match readFields [⟨2, 0, 59, none⟩] rest with
        | [s] =>
          let rest := rest.drop 2
          match rest with
          | '.' :: d :: more =>
            if d.isDigit then
              let ds := (d :: more).takeWhile Char.isDigit
              some (Float.ofNat s + fraction ds, (d :: more).drop ds.length)
            else some (Float.ofNat s, rest)
          | _ => some (Float.ofNat s, rest)
        | _ => none
      | _ => some (0.0, cs)
    match secs with
    | none => none
    | some (second, rest) =>
      readZone rest { p with hasJd := false, raw := false, hasTime := true, hour := h,
                              minute := m, second }
  | _ => none

/-- A date `YYYY-MM-DD` (with a minus for years before the common era), optionally followed by
a time of day. -/
def readDate (cs : List Char) (p : Moment) : Option Moment :=
  let (negative, cs) := match cs with
    | '-' :: rest => (true, rest)
    | _ => (false, cs)
  match readFields [⟨4, 0, 14712, some '-'⟩, ⟨2, 1, 12, some '-'⟩, ⟨2, 1, 31, none⟩] cs with
  | [y, m, d] =>
    let cs := (cs.drop 10).dropWhile fun c => isSpace c || c = 'T'
    let p? := match readTime cs p with
      | some p => some p
      | none => if cs.isEmpty then some { p with hasTime := false } else none
    match p? with
    | none => none
    | some p =>
      let p := { p with hasJd := false, hasDate := true, year := if negative then -(y : Int) else y,
                        month := m, day := d }.withOverflow
      some (if p.zone ≠ 0 then p.withJd else p)
  | _ => none

def current (now : Int) (p : Moment) : Moment :=
  { p with jd := now + epochJd, hasJd := true, utc := true, isLocal := false }.clearFields

/-- A number standing for a time, read as a julian day number for now. -/
def rawNumber (p : Moment) (r : Float) : Moment :=
  let p := { p with second := r, raw := true }
  if 0.0 ≤ r && r < 5373484.5 then { p with jd := truncate (r * 86400000.0 + 0.5), hasJd := true }
  else p

/-- The text in lower case, ASCII letters only. -/
def lowered (s : String) : String := s.map Char.toLower

/-- A time value given as text. -/
def readText (now : Int) (s : String) : Option Moment :=
  let cs := s.toList
  match readDate cs {} with
  | some p => some p
  | none =>
    match readTime cs {} with
    | some p => some p
    | none =>
      let scan := readReal cs
      if lowered s = "now" then some (current now {})
      else if 0 < scan.kind then some (rawNumber {} scan.value)
      else if lowered s = "subsec" || lowered s = "subsecond" then
        some (current now { subsecond := true })
      else none

/-- Read a number given as unix time when it is in range, or as a julian day when it is one. -/
def Moment.autoAdjusted (p : Moment) : Moment :=
  if !p.raw || p.hasJd then { p with raw := false }
  else if -210866760000.0 ≤ p.second && p.second ≤ 253402300799.0 then
    let r := p.second * 1000.0 + 210866760000000.0
    { p.clearFields with jd := truncate (r + 0.5), hasJd := true, raw := false }
  else p

/-- The time in local time, which is universal time: the date and time of day from the julian
day, with the milliseconds added to the whole seconds. -/
def Moment.toLocal (p : Moment) : Moment :=
  let p := p.withJd
  let q := { p with hasDate := false, hasTime := false }.withFields
  let whole := Float.ofInt (truncate q.second)
  { q with second := whole + Float.ofInt (Int.tmod p.jd 1000) * 0.001, hasDate := true,
           hasTime := true, hasJd := false, raw := false, zone := 0, failed := false }

/-- The units of `±NNN unit` modifiers: the name, the largest amount allowed, and the seconds
in one unit. -/
def units : List (String × Float × Float) :=
  [("second", 464269992787968.0, 1.0), ("minute", 7737900007424.0, 60.0),
   ("hour", 128969998336.0, 3600.0), ("day", 5373485.0, 86400.0),
   ("month", 176546.0, 2592000.0), ("year", 14713.0, 31536000.0)]

/-- Whole months added to a date, carrying into the year. -/
def Moment.addMonths (p : Moment) (months : Int) : Moment :=
  let m := p.month + months
  let x := if 0 < m then Int.tdiv (m - 1) 12 else Int.tdiv (m - 12) 12
  { p with year := p.year + x, month := m - x * 12 }

/-- Add `±NNN unit` to a time: months and years first as whole months and years on the date,
their fraction and every other unit as milliseconds. -/
def Moment.addUnits (p : Moment) (r : Float) (unit : String) : Option Moment :=
  let p := p.withJd
  let rounder := if r < 0.0 then -0.5 else 0.5
  let p := { p with overflow := 0 }
  match units.find? fun (name, limit, _) => name = unit && -limit < r && r < limit with
  | none => none
  | some (name, _, seconds) =>
    let whole := truncate r
    let (p, r) :=
      if name = "month" then
        ({ (p.withFields.addMonths whole).withOverflow with hasJd := false }, r - Float.ofInt whole)
      else if name = "year" then
        let q := p.withFields
        ({ { q with year := q.year + whole }.withOverflow with hasJd := false }, r - Float.ofInt whole)
      else (p, r)
    let p := p.withJd
    some { p with jd := p.jd + truncate (r * 1000.0 * seconds + rounder) }.clearFields

/-- Add or take away a time of day `±HH:MM[:SS[.SSS]]`. -/
def Moment.addClock (p : Moment) (negative : Bool) (cs : List Char) : Option Moment :=
  let cs := match cs with
    | c :: rest => if c.isDigit then c :: rest else rest
    | [] => []
  match readTime cs {} with
  | none => none
  | some tx =>
    let tx := tx.withJd
    let ms := tx.jd - 43200000
    let ms := ms - Int.tdiv ms 86400000 * 86400000
    let ms := if negative then -ms else ms
    let p := p.withJd.clearFields
    some { p with jd := p.jd + ms }

/-- The length of the numeral that starts a `±NNN` modifier: up to a colon, a space, or the
minus after a four- or five-digit year. -/
def numeralLength (cs : List Char) : Nat :=
  let rec go : Nat → List Char → Nat → Nat
    | 0, _, n => n
    | _, [], n => n
    | fuel + 1, c :: rest, n =>
      if c = ':' || isSpace c then n
      else if c = '-' &&
          ((n = 5 && (readFields [⟨4, 0, 14712, none⟩] (cs.drop 1)).length = 1) ||
           (n = 6 && (readFields [⟨5, 0, 14712, none⟩] (cs.drop 1)).length = 1)) then n
      else go fuel rest (n + 1)
  go cs.length (cs.drop 1) 1

/-- A modifier starting with a sign or a digit: `±NNN unit`, `±HH:MM[:SS[.SSS]]`, or
`±YYYY-MM-DD` with an optional time after a space. -/
def numericModifier (p : Moment) (cs : List Char) : Option Moment :=
  let n := numeralLength cs
  let scan := readReal (cs.take n)
  if scan.kind ≤ 0 then none
  else
    let r := scan.value
    let z0 := cs.headD ' '
    let negative := z0 = '-'
    let after := cs.drop n
    -- the date form: whole years, months and days
    let dated : Option (Option (Moment × List Char)) :=
      if after.head? = some '-' then
        if z0 ≠ '+' && z0 ≠ '-' then some none
        else
          let width := if n = 5 then 4 else 5
          let base := if n = 5 then cs else cs.drop 1
          match readFields [⟨width, 0, 14712, some '-'⟩, ⟨2, 0, 12, some '-'⟩, ⟨2, 0, 31, none⟩]
              (cs.drop 1) with
          | [y, m, d] =>
            if 12 ≤ m || 31 ≤ d then some none
            else
              let q := p.withFields
              let q := { q with hasJd := false }
              let (q, d) := if negative then ({ q with year := q.year - y }.addMonths (-(m : Int)), -(d : Int))
                else ({ q with year := q.year + y }.addMonths m, (d : Int))
              let q := q.withOverflow.withJd
              let q := { q with hasTime := false, hasDate := false, jd := q.jd + d * 86400000 }
              let tail := base.drop 11
              match tail with
              | [] => some (some (q, []))
              | c :: more =>
                if isSpace c && (readFields [⟨2, 0, 24, some ':'⟩, ⟨2, 0, 59, none⟩] more).length = 2
                then some (some (q, more))
                else some none
          | _ => some none
      else none
    match dated with
    | some none => none
    | some (some (q, [])) => some q
    | some (some (q, clock)) => q.addClock negative clock
    | none =>
      if after.head? = some ':' then p.addClock negative cs
      else
        let unit := after.dropWhile isSpace
        let len := (Utf8.encode (String.ofList unit)).length
        if len < 3 || 10 < len then none
        else
          let unit := lowered (String.ofList unit)
          let unit := if unit.endsWith "s" then String.ofList (unit.toList.dropLast) else unit
          p.addUnits r unit

/-- Apply one modifier, the `idx`th argument; none when it is not a modifier or cannot apply. -/
def modify (p : Moment) (text : String) (idx : Nat) : Option Moment :=
  let z := lowered text
  match text.toList with
  | [] => none
  | c :: _ =>
    match c.toLower with
    | 'a' =>
      if z = "auto" then (if 1 < idx then none else some p.autoAdjusted) else none
    | 'c' =>
      if z = "ceiling" then some { p.withJd.clearFields with overflow := 0 } else none
    | 'f' =>
      if z = "floor" then
        let p := p.withJd
        some { p with jd := p.jd - p.overflow * 86400000 }.clearFields
      else none
    | 'j' =>
      if z = "julianday" then
        if 1 < idx then none
        else if p.hasJd && p.raw then some { p with raw := false } else none
      else none
    | 'l' =>
      if z = "localtime" then
        some { (if p.isLocal then p else p.toLocal) with utc := false, isLocal := true }
      else none
    | 'u' =>
      if z = "unixepoch" && p.raw then
        if 1 < idx then none
        else
          let r := p.second * 1000.0 + 210866760000000.0
          if 0.0 ≤ r && r < 464269060800000.0 then
            some { p.clearFields with jd := truncate (r + 0.5), hasJd := true, raw := false }
          else none
      else if z = "utc" then
        if p.utc then some p else some { jd := p.withJd.jd, hasJd := true, utc := true }
      else none
    | 'w' =>
      if z.startsWith "weekday " then
        let scan := readReal (z.toList.drop 8)
        let r := scan.value
        let n := truncate r
        if 0 < scan.kind && 0.0 ≤ r && r < 7.0 && Float.ofInt n == r then
          let q := { p.withFields with zone := 0, hasJd := false }.withJd
          let day := Int.tmod (Int.tdiv (q.jd + 129600000) 86400000) 7
          let day := if n < day then day - 7 else day
          some { q with jd := q.jd + (n - day) * 86400000 }.clearFields
        else none
      else none
    | 's' =>
      if !z.startsWith "start of " then
        if z = "subsec" || z = "subsecond" then some { p with subsecond := true } else none
      else if !p.hasJd && !p.hasDate && !p.hasTime then none
      else
        let q := p.withDate
        let q := { q with hasTime := true, hour := 0, minute := 0, second := 0.0, raw := false,
                          zone := 0, hasJd := false }
        let what := z.drop 9
        if what == "month" then some { q with day := 1 }
        else if what == "year" then some { q with month := 1, day := 1 }
        else if what == "day" then some q
        else none
    | c =>
      if c = '+' || c = '-' || c.isDigit then numericModifier p text.toList else none

/-- A time value with its modifiers, as the date and time functions read their arguments;
none when any of them cannot be read or the result is out of range. With no arguments the time
is now. -/
def readMoment (now : Int) (args : List SqlValue) : Option Moment :=
  match args with
  | [] => some (current now {})
  | first :: mods =>
    let start : Option Moment := match first with
      | .integer i => some (rawNumber {} (Binary64.ofInt i))
      | .real x => some (rawNumber {} x)
      | .null => none
      | v => readText now ((SqlValue.textOf v).getD "")
    let applied := mods.zipIdx.foldl (fun (acc : Option Moment) (v, i) =>
      match acc, SqlValue.textOf v with
      | some p, some t => modify p t (i + 1)
      | _, _ => none) start
    match applied with
    | none => none
    | some p =>
      let p := p.withJd
      if p.failed || !validJd p.jd then none
      else if args.length = 1 && p.hasDate && 28 < p.day then some { p with hasDate := false }
      else some p

/-- A number written with at least `width` characters, zeros between its sign and digits. -/
def zeroPadded (width : Nat) (v : Int) : String :=
  let ds := toString v.natAbs
  let room := if v < 0 then width - 1 else width
  let ds := String.ofList (List.replicate (room - ds.length) '0') ++ ds
  if v < 0 then "-" ++ ds else ds

/-- A number written with at least `width` characters, spaces in front. -/
def spacePadded (width : Nat) (v : Int) : String :=
  let ds := toString v
  String.ofList (List.replicate (width - ds.length) ' ') ++ ds

/-- The four digits of a year, with a minus before a year before the common era. -/
def yearText (y : Int) : String :=
  let a := y.natAbs
  let ds := String.ofList ((List.range 4).reverse.map fun k =>
    Char.ofNat ('0'.toNat + (a / Nat.pow 10 k) % 10))
  if y < 0 then "-" ++ ds else ds

def twoDigits (v : Int) : String :=
  let a := v.natAbs
  String.ofList [Char.ofNat ('0'.toNat + (a / 10) % 10), Char.ofNat ('0'.toNat + a % 10)]

/-- The seconds as `SS`, or as `SS.SSS` when milliseconds are shown. -/
def secondsText (p : Moment) : String :=
  if p.subsecond then
    let s := truncate (1000.0 * p.second + 0.5)
    twoDigits (s / 1000) ++ "." ++ String.ofList ((List.range 3).reverse.map fun k =>
      Char.ofNat ('0'.toNat + (s.natAbs / Nat.pow 10 k) % 10))
  else twoDigits (truncate p.second)

/-- `YYYY-MM-DD` of a time. -/
def dateText (p : Moment) : String :=
  yearText p.year ++ "-" ++ twoDigits p.month ++ "-" ++ twoDigits p.day

/-- `HH:MM:SS` of a time. -/
def timeText (p : Moment) : String :=
  twoDigits p.hour ++ ":" ++ twoDigits p.minute ++ ":" ++ secondsText p

/-- The days from the first of January of the time's year. -/
def daysAfterJan01 (p : Moment) : Int :=
  let jan := { p with hasJd := false, month := 1, day := 1 }.withJd
  Int.tdiv (p.jd - jan.jd + 43200000) 86400000

/-- The weekday counted from Monday (0) and from Sunday (0). -/
def daysAfterMonday (p : Moment) : Int := Int.tmod (Int.tdiv (p.jd + 43200000) 86400000) 7

/-- The weekday counted from Sunday (0). -/
def daysAfterSunday (p : Moment) : Int := Int.tmod (Int.tdiv (p.jd + 129600000) 86400000) 7

/-- The Thursday of a time's week, which names the week's year for ISO weeks. -/
def thursday (p : Moment) : Moment :=
  { p with jd := p.jd + (3 - daysAfterMonday p) * 86400000, hasDate := false }.withDate

/-- The text `strftime` makes of one conversion letter, none for a letter it does not know. -/
def conversion (p : Moment) (c : Char) : Option String :=
  match c with
  | 'd' => some (zeroPadded 2 p.day)
  | 'e' => some (spacePadded 2 p.day)
  | 'f' =>
    let s := if 59.999 < p.second then 59.999 else p.second
    some (SqlFormat.realText { zeroPad := true, width := 6, precision := some 3 } .fixed false s)
  | 'F' => some (zeroPadded 4 p.year ++ "-" ++ zeroPadded 2 p.month ++ "-" ++ zeroPadded 2 p.day)
  | 'G' => some (zeroPadded 4 (thursday p).year)
  | 'g' => some (zeroPadded 2 (Int.tmod (thursday p).year 100))
  | 'H' => some (zeroPadded 2 p.hour)
  | 'k' => some (spacePadded 2 p.hour)
  | 'I' | 'l' =>
    let h := if 12 < p.hour then p.hour - 12 else p.hour
    let h := if h = 0 then 12 else h
    some (if c = 'I' then zeroPadded 2 h else spacePadded 2 h)
  | 'j' => some (zeroPadded 3 (daysAfterJan01 p + 1))
  | 'J' => some (SqlFormat.realText { precision := some 16 } .general false
      (Float.ofInt p.jd / 86400000.0))
  | 'm' => some (zeroPadded 2 p.month)
  | 'M' => some (zeroPadded 2 p.minute)
  | 'p' => some (if 12 ≤ p.hour then "PM" else "AM")
  | 'P' => some (if 12 ≤ p.hour then "pm" else "am")
  | 'R' => some (zeroPadded 2 p.hour ++ ":" ++ zeroPadded 2 p.minute)
  | 's' =>
    if p.subsecond then
      some (SqlFormat.realText { precision := some 3 } .fixed false
        (Float.ofInt (p.jd - epochJd) / 1000.0))
    else some (toString (Int.tdiv p.jd 1000 - 210866760000))
  | 'S' => some (zeroPadded 2 (truncate p.second))
  | 'T' => some (zeroPadded 2 p.hour ++ ":" ++ zeroPadded 2 p.minute ++ ":" ++
      zeroPadded 2 (truncate p.second))
  | 'u' => some (let d := daysAfterSunday p; toString (if d = 0 then 7 else d))
  | 'w' => some (toString (daysAfterSunday p))
  | 'U' => some (zeroPadded 2 (Int.tdiv (daysAfterJan01 p - daysAfterSunday p + 7) 7))
  | 'V' => some (zeroPadded 2 (Int.tdiv (daysAfterJan01 (thursday p)) 7 + 1))
  | 'W' => some (zeroPadded 2 (Int.tdiv (daysAfterJan01 p - daysAfterMonday p + 7) 7))
  | 'Y' => some (zeroPadded 4 p.year)
  | 'y' => some (zeroPadded 2 (Int.tmod p.year 100))
  | '%' => some "%"
  | _ => none

/-- The text of a `strftime` format for a time; none when a conversion is unknown. -/
def strftime (p : Moment) : List Char → Option String
  | [] => some ""
  | '%' :: c :: rest => do
    let piece ← conversion p c
    let tail ← strftime p rest
    pure (piece ++ tail)
  | ['%'] => none
  | c :: rest => (String.ofList [c] ++ ·) <$> strftime p rest

/-- Step a date by whole months, keeping the day, until `done` holds: the months stepped and
the date. -/
def stepMonths (forward : Bool) (done : Moment → Bool) : Nat → Moment → Int → Int × Int × Moment
  | 0, q, m => (m, 0, q)
  | fuel + 1, q, m =>
    if done q then (m, 0, q)
    else
      let month := if forward then q.month + 1 else q.month - 1
      let (y, month) := if month < 1 then (q.year - 1, 12)
        else if 12 < month then (q.year + 1, 1) else (q.year, month)
      let q := { q with year := y, month, hasJd := false }.withJd
      stepMonths forward done fuel q (m - 1)

/-- `timediff(a, b)`: the time from `b` to `a` as `±YYYY-MM-DD HH:MM:SS.SSS`. -/
def timediff (a b : Moment) : String :=
  let d1 := a.withFields
  let d2 := b.withFields
  let forward := d2.jd ≤ d1.jd
  let sign := if forward then "+" else "-"
  let y := if forward then d1.year - d2.year else d2.year - d1.year
  let d2 := if y ≠ 0 then { d2 with year := d1.year, hasJd := false }.withJd else d2
  let m := if forward then d1.month - d2.month else d2.month - d1.month
  let (y, m) := if m < 0 then (y - 1, m + 12) else (y, m)
  let d2 := if m ≠ 0 then { d2 with month := d1.month, hasJd := false }.withJd else d2
  -- step the second date back (or on) a month at a time until it is not past the first
  let (m, _, d2) := stepMonths (!forward)
    (fun q => if forward then !(d1.jd < q.jd) else !(q.jd < d1.jd)) 24 d2 m
  let (y, m) := if m < 0 then (y - (((-m) + 11) / 12), m + 12 * (((-m) + 11) / 12)) else (y, m)
  let diff := if forward then d1.jd - d2.jd else d2.jd - d1.jd
  let r := ({ jd := diff + 148699540800000, hasJd := true } : Moment).withFields
  sign ++ zeroPadded 4 y ++ "-" ++ zeroPadded 2 m ++ "-" ++ zeroPadded 2 (r.day - 1) ++ " " ++
    zeroPadded 2 r.hour ++ ":" ++ zeroPadded 2 r.minute ++ ":" ++
    SqlFormat.realText { zeroPad := true, width := 6, precision := some 3 } .fixed false r.second

/-- The date and time functions by name (in capitals), none for another name. `now` is the
statement's time in milliseconds since the epoch. -/
def call (now : Int) (name : String) (args : List SqlValue) : Option SqlValue :=
  let withMoment (f : Moment → SqlValue) : SqlValue :=
    match readMoment now args with
    | some p => f p
    | none => .null
  match name with
  | "DATE" => some (withMoment fun p => .text (dateText p.withFields))
  | "TIME" => some (withMoment fun p => .text (timeText p.withFields))
  | "DATETIME" => some (withMoment fun p =>
      let p := p.withFields
      .text (dateText p ++ " " ++ timeText p))
  | "JULIANDAY" => some (withMoment fun p => .real (Float.ofInt p.jd / 86400000.0))
  | "UNIXEPOCH" => some (withMoment fun p =>
      if p.subsecond then .real (Float.ofInt (p.jd - 210866760000000) / 1000.0)
      else .integer (Int.tdiv p.jd 1000 - 210866760000))
  | "STRFTIME" =>
    some (match args with
      | [] => .null
      | f :: rest =>
        match SqlValue.textOf f, readMoment now rest with
        | some fmt, some p =>
          match strftime p.withFields fmt.toList with
          | some t => .text t
          | none => .null
        | _, _ => .null)
  | "TIMEDIFF" =>
    some (match args with
      | [a, b] =>
        match readMoment now [a], readMoment now [b] with
        | some p, some q => .text (timediff p q)
        | _, _ => .null
      | _ => .null)
  | _ => none

end SqlClock

end TradeLedger
