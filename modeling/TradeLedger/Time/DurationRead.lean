import TradeLedger.Time.Instant
import TradeLedger.Text.Quote
import TradeLedger.Text.Utf8
/-!
# Reading durations

A duration is read as an optional sign and one or more terms, each a decimal number with an
optional fraction followed by a unit: `ns`, `us` (or `µs`, `μs`), `ms`, `s`, `m`, `h`. The
terms add up: `1h30m`, `1.5h`, `-2m3.25s`. A lone `0` needs no unit. The whole part of a term
must stay within 2⁶³ nanoseconds; fraction digits beyond what 64 bits hold are ignored. The sum
must stay within the 64-bit range, where a negative duration may reach one unit further.

## Main definitions

* `Duration.parse`: reading a duration, or the message that refuses it.
-/

namespace TradeLedger

namespace Duration

/-- The nanoseconds of a unit's bytes. -/
def unitOf (u : List UInt8) : Option Nat :=
  if u == [110, 115] then some 1
  else if u == [117, 115] || u == [0xC2, 0xB5, 115] || u == [0xCE, 0xBC, 115] then some 1000
  else if u == [109, 115] then some 1000000
  else if u == [115] then some 1000000000
  else if u == [109] then some 60000000000
  else if u == [104] then some 3600000000000
  else none

/-- Whether a byte is a decimal digit. -/
def isDigit (c : UInt8) : Bool := 48 ≤ c && c ≤ 57

/-- Leading digits as a number; `none` once the number passes 2⁶³. -/
def leadingInt : Nat → List UInt8 → Option (Nat × List UInt8)
  | x, c :: rest =>
    if isDigit c then
      if Nat.pow 2 63 / 10 < x then none
      else
        let x := x * 10 + (c.toNat - 48)
        if Nat.pow 2 63 < x then none else leadingInt x rest
    else some (x, c :: rest)
  | x, [] => some (x, [])

/-- Leading digits of a fraction as a number and its scale; digits past what 64 bits hold are
skipped. -/
def leadingFraction : Nat × Float × Bool → List UInt8 → Nat × Float × List UInt8
  | (x, scale, overflow), c :: rest =>
    if isDigit c then
      if overflow then leadingFraction (x, scale, true) rest
      else if (Nat.pow 2 63 - 1) / 10 < x then leadingFraction (x, scale, true) rest
      else
        let y := x * 10 + (c.toNat - 48)
        if Nat.pow 2 63 < y then leadingFraction (x, scale, true) rest
        else leadingFraction (y, scale * 10, false) rest
    else (x, scale, c :: rest)
  | (x, scale, _), [] => (x, scale, [])

/-- The refusal of a text that is not a duration. -/
def invalid (orig : String) : String := "time: invalid duration " ++ quoteTextPlain orig

/-- Read terms, adding their nanoseconds to `d`. Each term consumes at least one byte, so the
bytes left bound the recursion. -/
def terms (orig : String) : Nat → Nat → List UInt8 → Except String Nat
  | 0, d, _ => .ok d
  | fuel + 1, d, s =>
    match s with
    | [] => .ok d
    | c :: _ =>
      if !(c == 46 || isDigit c) then .error (invalid orig)
      else
        match leadingInt 0 s with
        | none => .error (invalid orig)
        | some (v, afterInt) =>
          let pre := afterInt.length != s.length
          let (f, scale, afterFrac, post) := match afterInt with
            | 46 :: rest =>
              let (f, scale, r) := leadingFraction (0, 1, false) rest
              (f, scale, r, r.length != rest.length)
            | _ => (0, 1, afterInt, false)
          if !pre && !post then .error (invalid orig)
          else
            let u := afterFrac.takeWhile fun b => !(b == 46 || isDigit b)
            let rest := afterFrac.dropWhile fun b => !(b == 46 || isDigit b)
            if u.isEmpty then .error ("time: missing unit in duration " ++ quoteTextPlain orig)
            else
              match unitOf u with
              | none => .error ("time: unknown unit " ++ quoteBytesPlain u ++
                  " in duration " ++ quoteTextPlain orig)
              | some unit =>
                if Nat.pow 2 63 / unit < v then .error (invalid orig)
                else
                  let v := v * unit
                  let v := if 0 < f then
                      v + (f.toFloat * (unit.toFloat / scale)).toUInt64.toNat
                    else v
                  if Nat.pow 2 63 < v then .error (invalid orig)
                  else
                    let d := d + v
                    if Nat.pow 2 63 < d then .error (invalid orig) else terms orig fuel d rest

/-- Read a duration: an optional sign, then `0` or one or more terms. -/
def parse (orig : String) : Except String Duration :=
  let bytes := Utf8.encode orig
  let (neg, s) := match bytes with
    | 45 :: rest => (true, rest)
    | 43 :: rest => (false, rest)
    | _ => (false, bytes)
  if s == [48] then .ok 0
  else if s.isEmpty then .error (invalid orig)
  else
    match terms orig s.length 0 s with
    | .error e => .error e
    | .ok d =>
      if neg then .ok (-(d : Int))
      else if Nat.pow 2 63 - 1 < d then .error (invalid orig)
      else .ok d

end Duration

end TradeLedger
