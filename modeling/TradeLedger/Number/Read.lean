import TradeLedger.Number.Binary64
import TradeLedger.Text.Quote
/-!
# Reading numerals

Quantities and times arrive as text, read with the grammar of the venue gateway's numeral
reader. A float numeral is `inf`, `infinity` or `nan` in any case, decimal digits with a point
and exponent, or hexadecimal digits with a `p` exponent, underscores allowed between digits; it
is rounded to the nearest word, a value too large refused as out of range. An integer numeral is
within the signed 64-bit range. A refusal names the reader and quotes the input.

## Main definitions

* `readFloat`, `readInt64`: the readers.
-/

namespace TradeLedger

/-- The two numeral readers. -/
inductive NumeralReader where
  | float
  | int
  deriving Repr, DecidableEq

/-- Why a numeral was refused. -/
inductive NumeralError where
  | invalid
  | range
  deriving Repr, DecidableEq

/-- A refused numeral: which reader, the whole input, and why. -/
structure NumeralFailure where
  reader : NumeralReader
  input : List UInt8
  error : NumeralError
  deriving Repr, DecidableEq

/-- The text of a refusal. -/
def NumeralFailure.message (f : NumeralFailure) : String :=
  let reader := match f.reader with
    | .float => "ParseFloat"
    | .int => "ParseInt"
  let why := match f.error with
    | .invalid => "invalid syntax"
    | .range => "value out of range"
  "strconv." ++ reader ++ ": parsing " ++ quoteBytes f.input ++ ": " ++ why

namespace Numeral

/-- ASCII lower case of a byte. -/
def lower (c : UInt8) : UInt8 := if 65 ≤ c && c ≤ 90 then c + 32 else c

/-- A decimal digit byte. -/
def isDigit (c : UInt8) : Bool := 48 ≤ c && c ≤ 57

/-- A hex letter byte, either case. -/
def isHexLetter (c : UInt8) : Bool := 97 ≤ lower c && lower c ≤ 102

/-- The length of the longest common prefix of `s` and `word`, ignoring ASCII case. -/
def commonPrefixIgnoreCase : List UInt8 → List UInt8 → Nat
  | c :: s, w :: word => if lower c == lower w then commonPrefixIgnoreCase s word + 1 else 0
  | _, _ => 0

/-- The bytes of an ASCII word. -/
def bytesOf (s : String) : List UInt8 := s.toUTF8.toList

/-- A leading infinity or NaN word, with the number of bytes it takes. -/
def special? (s : List UInt8) : Option (Float × Nat) :=
  let infinityWord (negative : Bool) (signLen : Nat) (rest : List UInt8) :=
    let n := commonPrefixIgnoreCase rest (bytesOf "infinity")
    let n := if 3 < n ∧ n < 8 then 3 else n
    if n = 3 ∨ n = 8 then some (Binary64.infinity negative, signLen + n) else none
  match s with
  | [] => none
  | c :: rest =>
    if c == 43 then infinityWord false 1 rest
    else if c == 45 then infinityWord true 1 rest
    else if lower c == 105 then infinityWord false 0 s
    else if lower c == 110 then
      if commonPrefixIgnoreCase s (bytesOf "nan") = 3 then some (0.0 / 0.0, 3) else none
    else none

/-- Whether the underscores of a numeral stand only between digits, or between a base prefix
and a digit. -/
def underscoresOk (s : List UInt8) : Bool :=
  let body := match s with
    | c :: rest => if c == 43 || c == 45 then rest else s
    | [] => []
  -- `saw`: 0 start, 1 digit or prefix, 2 underscore, 3 anything else
  let (start, hex, body) := match body with
    | z :: b :: rest =>
      if z == 48 && (lower b == 98 || lower b == 111 || lower b == 120) then
        (1, lower b == 120, rest)
      else (0, false, body)
    | _ => (0, false, body)
  let step (saw : Option Nat) (c : UInt8) : Option Nat :=
    match saw with
    | none => none
    | some saw =>
      if isDigit c || (hex && isHexLetter c) then some 1
      else if c == 95 then (if saw == 1 then some 2 else none)
      else if saw == 2 then none
      else some 3
  match body.foldl step (some start) with
  | some saw => saw != 2
  | none => false

/-- The state of the mantissa scan: the value of all significant digits, their count, the
position of the point relative to them, and what was seen. -/
structure MantissaScan where
  value : Nat := 0
  count : Nat := 0
  point : Int := 0
  sawPoint : Bool := false
  sawDigits : Bool := false
  underscores : Bool := false

/-- Scan mantissa digits in base 10 or 16, returning the state and the unread rest. Leading
zeros are not significant and only move the point. -/
def scanMantissa (hex : Bool) : MantissaScan → List UInt8 → MantissaScan × List UInt8
  | st, [] => (st, [])
  | st, c :: rest =>
    if c == 95 then scanMantissa hex { st with underscores := true } rest
    else if c == 46 then
      if st.sawPoint then (st, c :: rest)
      else scanMantissa hex { st with sawPoint := true, point := st.count } rest
    else if isDigit c then
      if c == 48 && st.count = 0 then
        scanMantissa hex { st with sawDigits := true, point := st.point - 1 } rest
      else
        let v := st.value * (if hex then 16 else 10) + (c.toNat - 48)
        scanMantissa hex { st with sawDigits := true, count := st.count + 1, value := v } rest
    else if hex && isHexLetter c then
      let v := st.value * 16 + ((lower c).toNat - 87)
      scanMantissa hex { st with sawDigits := true, count := st.count + 1, value := v } rest
    else (st, c :: rest)

/-- Scan exponent digits (underscores allowed), accumulating while the value is below 10000.
Returns the value, whether an underscore was seen, and the unread rest. -/
def scanExponent : Nat → Bool → List UInt8 → Nat × Bool × List UInt8
  | e, u, [] => (e, u, [])
  | e, u, c :: rest =>
    if c == 95 then scanExponent e true rest
    else if isDigit c then
      scanExponent (if e < 10000 then e * 10 + (c.toNat - 48) else e) u rest
    else (e, u, c :: rest)

/-- A numeral read up to where its grammar ends: sign, base, significant digits and the power
of the base (ten) or of two (hex) that scales them, and the number of bytes read. -/
structure Parsed where
  negative : Bool
  hex : Bool
  digits : Nat
  /-- decimal: the point position after the exponent; hex: the binary exponent -/
  scale : Int
  count : Nat
  used : Nat

/-- Read the longest float numeral at the head of `s`; `none` when its grammar fails. -/
def parsePrefix (s : List UInt8) : Option Parsed :=
  let (negative, afterSign) := match s with
    | c :: rest => if c == 43 then (false, rest) else if c == 45 then (true, rest) else (false, s)
    | [] => (false, [])
  if afterSign.isEmpty then none
  else
    let hex := match afterSign with
      | z :: x :: _ :: _ => z == 48 && lower x == 120
      | _ => false
    let body := if hex then afterSign.drop 2 else afterSign
    let (st, rest) := scanMantissa hex {} body
    if !st.sawDigits then none
    else
      let point : Int := if st.sawPoint then st.point else st.count
      let expChar : UInt8 := if hex then 112 else 101
      let exponent : Option (Int × Bool × List UInt8) :=
        match rest with
        | c :: afterE =>
          if lower c == expChar then
            let (esign, digitsPart) : Int × List UInt8 := match afterE with
              | d :: r => if d == 43 then (1, r) else if d == 45 then (-1, r) else (1, afterE)
              | [] => (1, [])
            match digitsPart with
            | d :: _ =>
              if isDigit d then
                let (e, u, rest') := scanExponent 0 false digitsPart
                some (esign * e, u, rest')
              else none
            | [] => none
          else if hex then none
          else some (0, false, rest)
        | [] => if hex then none else some (0, false, rest)
      match exponent with
      | none => none
      | some (e, u, rest') =>
        let used := s.length - rest'.length
        if (st.underscores || u) && !underscoresOk (s.take used) then none
        else
          let scale := if hex then 4 * point + e else point + e
          some ⟨negative, hex, st.value, scale, st.count, used⟩

/-- The value of a parsed numeral rounded to binary64, and whether it overflowed. -/
def Parsed.value (p : Parsed) : Float × Bool :=
  if p.digits = 0 then (Binary64.nearest p.negative 0 1, false)
  else if p.hex then
    -- digits * 2 ^ (scale - 4 * count)
    let y : Int := p.scale - 4 * (p.count : Int)
    let top : Int := (Nat.log2 p.digits : Int) + y
    if 1100 < top then (Binary64.infinity p.negative, true)
    else if top < -1200 then (Binary64.nearest p.negative 0 1, false)
    else
      let (num, den) := if 0 ≤ y then (p.digits * Nat.pow 2 y.toNat, 1) else (p.digits, Nat.pow 2 (-y).toNat)
      (Binary64.nearest p.negative num den, Binary64.overflows num den)
  else
    -- the value is 0.d1d2… * 10 ^ scale
    if 310 < p.scale then (Binary64.infinity p.negative, true)
    else if p.scale < -330 then (Binary64.nearest p.negative 0 1, false)
    else
      let x : Int := p.scale - (p.count : Int)
      let (num, den) := if 0 ≤ x then (p.digits * Nat.pow 10 x.toNat, 1) else (p.digits, Nat.pow 10 (-x).toNat)
      (Binary64.nearest p.negative num den, Binary64.overflows num den)

end Numeral

/-- Read a whole float numeral. Trailing bytes make it a syntax error; a value beyond the
finite range is refused as out of range. -/
def readFloat (s : List UInt8) : Except NumeralFailure Float :=
  let invalidText : Except NumeralFailure Float := .error ⟨.float, s, .invalid⟩
  match Numeral.special? s with
  | some (v, n) => if n = s.length then .ok v else invalidText
  | none =>
    match Numeral.parsePrefix s with
    | none => invalidText
    | some p =>
      if p.used ≠ s.length then invalidText
      else
        let (v, overflow) := p.value
        if overflow then .error ⟨.float, s, .range⟩ else .ok v

def readFloatText (s : String) : Except NumeralFailure Float := readFloat s.toUTF8.toList

/-- The largest magnitude of a signed 64-bit integer plus one. -/
def int64Bound : Nat := Nat.pow 2 63

/-- Accumulate decimal digits; `none` at a non-digit, or the first point where the value
passes `2 ^ 64 - 1` (reported as `some` with `overflow`). -/
def accumulateDigits : Nat → List UInt8 → Except NumeralError Nat
  | n, [] => .ok n
  | n, c :: rest =>
    if !Numeral.isDigit c then .error .invalid
    else
      let n' := n * 10 + (c.toNat - 48)
      if Nat.pow 2 64 ≤ n' then .error .range else accumulateDigits n' rest

/-- Read a whole signed 64-bit decimal integer numeral. Digits are checked left to right, so
a value that passes the unsigned 64-bit range before a bad byte is refused as out of range. -/
def readInt64 (s : List UInt8) : Except NumeralFailure Int :=
  let fail (e : NumeralError) : Except NumeralFailure Int := .error ⟨.int, s, e⟩
  let (negative, body) := match s with
    | c :: rest => if c == 43 then (false, rest) else if c == 45 then (true, rest) else (false, s)
    | [] => (false, [])
  if s.isEmpty || body.isEmpty then fail .invalid
  else
    match accumulateDigits 0 body with
    | .error e => fail e
    | .ok n =>
      if !negative && int64Bound ≤ n then fail .range
      else if negative && int64Bound < n then fail .range
      else .ok (if negative then -(n : Int) else n)

/-- Read a signed 64-bit integer numeral from text. -/
def readInt64Text (s : String) : Except NumeralFailure Int := readInt64 s.toUTF8.toList

end TradeLedger
