import TradeLedger.Sql.Value
import TradeLedger.Text.Utf8
/-!
# Formatting values as text

`printf` (or `format`) writes its arguments into a format text. A conversion is `%`, flags, a
width and a precision, and a letter: integers `d`, `i`, `u`, `x`, `X`, `o`, `p`, `r`; reals `f`,
`e`, `E`, `g`, `G`; texts `s`, `z`, `c`, `q`, `Q`, `w`. A missing argument is null; an unknown
letter ends the output. Reals are written from the first nineteen digits of the exact value,
rounded half up, to at most sixteen significant digits (twenty-six with `!`).

## Main definitions

* `Spec`, `readSpec`: a conversion and its reading.
* `realText`, `integerText`: the conversions.
-/

namespace TradeLedger

namespace SqlFormat

/-- The decimal digits of a real: its sign, its significant digits (none trailing zero), and
where the decimal point stands: the value is `0.d₁d₂… × 10 ^ point`. An infinity or a NaN has
no digits. -/
structure RealDigits where
  negative : Bool
  digits : List Nat
  point : Int
  infinite : Bool := false
  notANumber : Bool := false
  deriving Inhabited

/-- Add one to a list of decimal digits, most significant first: the digits and whether the
addition carried out of the first. -/
def increment : List Nat → List Nat × Bool
  | [] => ([], true)
  | d :: ds =>
    match increment ds with
    | (ds, true) => if d = 9 then (0 :: ds, true) else ((d + 1) :: ds, false)
    | (ds, false) => (d :: ds, false)

/-- The digits rounded half up to `keep` of them: the digits and whether rounding carried a
new leading one. -/
def roundDigits (ds : List Nat) (keep : Nat) : List Nat × Bool :=
  let kept := ds.take keep
  if (ds.drop keep).headD 0 ≥ 5 then
    match increment kept with
    | (r, true) => (1 :: r, true)
    | (r, false) => (r, false)
  else (kept, false)

/-- The list without its trailing zeros, keeping one digit. -/
def dropTrailingZeros (ds : List Nat) : List Nat :=
  match (ds.reverse.dropWhile (· = 0)).reverse with
  | [] => ds.take 1
  | r => r

/-- The decimal digits of a real as the formatter takes them. `round` says how many
significant digits are asked for; zero or less asks for that many digits after the point
(minus it). At most `most` significant digits are kept. -/
def realDigits (x : Float) (round : Int) (most : Nat) : RealDigits :=
  match Binary64.ofFloat x with
  | .nan => { negative := false, digits := [], point := 0, notANumber := true }
  | .infinite neg => { negative := neg, digits := [], point := 0, infinite := true }
  | .finite neg m e =>
    if m = 0 then { negative := false, digits := [0], point := 1 }
    else
      let d := Binary64.decimalExponent m e
      let v19 := Binary64.floorScaled m e (d - 18)
      let (v, exp) := if 9223372036854774784 < v19 then (Binary64.floorScaled m e (d - 17), d - 17)
        else (v19, d - 18)
      let ds := (Nat.toDigits 10 v).map fun c => c.toNat - '0'.toNat
      let point := (ds.length : Int) + exp
      -- a request for digits after the point becomes a count of significant digits
      let (ds, point, round) :=
        if round ≤ 0 then
          let r := point - round
          if r = 0 && ds.headD 0 ≥ 5 then (0 :: ds, point + 1, (1 : Int)) else (ds, point, r)
        else (ds, point, round)
      let (ds, point) :=
        if 0 < round && (round < ds.length || most < ds.length) then
          let keep := if (most : Int) < round then most else round.toNat
          match roundDigits ds keep with
          | (r, true) => (r, point + 1)
          | (r, false) => (r, point)
        else (ds, point)
      { negative := neg, digits := dropTrailingZeros ds, point }

/-- The flags, width and precision of a conversion. -/
structure Spec where
  leftJustify : Bool := false
  /-- the character put before a positive number: `+` or a space -/
  signChar : Option Char := none
  thousands : Bool := false
  alternate : Bool := false
  /-- the `!` flag -/
  bang : Bool := false
  zeroPad : Bool := false
  width : Nat := 0
  precision : Option Nat := none
  deriving Inhabited

/-- The kind of a real conversion: fixed (`f`), with an exponent (`e`), or whichever of the two
is shorter (`g`). -/
inductive RealStyle where
  | fixed
  | exponent
  | general
  deriving DecidableEq, Inhabited

/-- The `n`th digit of a list, or zero past its end. -/
def digitAt (ds : List Nat) (n : Nat) : Char := Char.ofNat ('0'.toNat + ds.getD n 0)

/-- A real written in a style: digits, point, trailing zeros and exponent as the spec asks,
with the sign, but without padding to the width except by zeros. `upper` writes the
exponent's `E` in capitals. -/
def realText (spec : Spec) (style : RealStyle) (upper : Bool) (x : Float) : String :=
  let precision : Nat := spec.precision.getD 6
  let precision := if style = .general && precision = 0 then 1 else precision
  let round : Int := match style with
    | .fixed => -(precision : Int)
    | .general => precision
    | .exponent => precision + 1
  let r := realDigits x round (if spec.bang then 26 else 16)
  if r.notANumber then (if spec.zeroPad then "null" else "NaN")
  else if r.infinite && !spec.zeroPad then
    if r.negative then "-Inf"
    else match spec.signChar with
      | some c => String.ofList [c] ++ "Inf"
      | none => "Inf"
  else
    -- an infinity padded with zeros is written as nine followed by a thousand zeros
    let r := if r.infinite then { r with digits := [9], point := 1000 } else r
    let sign : Option Char := if r.negative then some '-' else spec.signChar
    let exp := r.point - 1
    let precision := if style = .general && 0 < precision then precision - 1 else precision
    let (style, precision, trimZeros) :=
      match style with
      | .general =>
        if exp < -4 || (precision : Int) < exp then (RealStyle.exponent, precision, !spec.alternate)
        else (RealStyle.fixed, ((precision : Int) - exp).toNat, !spec.alternate)
      | s => (s, precision, spec.bang)
    let e2 : Int := if style = .exponent then 0 else r.point - 1
    let showPoint := 0 < precision || spec.alternate || spec.bang
    -- digits before the point
    let (whole, used) : List Char × Nat :=
      if e2 < 0 then (['0'], 0)
      else
        let count := e2.toNat + 1
        let ds := (List.range count).map fun j => digitAt r.digits j
        let grouped :=
          if spec.thousands then
            (ds.zipIdx.map fun (c, j) =>
              let left := count - 1 - j
              if left % 3 = 0 && left > 1 then [c, ','] else [c]).flatten
          else ds
        (grouped, count)
    -- zeros between the point and the first significant digit
    let leading := if e2 < 0 then min ((-(e2 + 1)).toNat) precision else 0
    let rest := precision - leading
    let frac := List.replicate leading '0' ++
      (List.range rest).map fun j => digitAt r.digits (used + j)
    let body := whole ++ (if showPoint then '.' :: frac else frac)
    let body :=
      if trimZeros && showPoint then
        let t := (body.reverse.dropWhile (· = '0')).reverse
        if t.getLast? = some '.' then (if spec.bang then t ++ ['0'] else t.dropLast) else t
      else body
    let suffix :=
      if style = .exponent then
        let ex := r.point - 1
        let mag := ex.natAbs
        let ds := if mag ≥ 100 then [Char.ofNat ('0'.toNat + mag / 100)] else []
        let mag := mag % 100
        [if upper then 'E' else 'e', if ex < 0 then '-' else '+'] ++ ds ++
          [Char.ofNat ('0'.toNat + mag / 10), Char.ofNat ('0'.toNat + mag % 10)]
      else []
    let text := (sign.toList ++ body ++ suffix)
    if spec.zeroPad && !spec.leftJustify && text.length < spec.width then
      let pad := List.replicate (spec.width - text.length) '0'
      String.ofList (match sign with
        | some c => c :: pad ++ text.drop 1
        | none => pad ++ text)
    else String.ofList text

/-- The digits of a natural number in a base, most significant first. -/
def radixDigits (base : Nat) (upper : Bool) (v : Nat) : List Char :=
  let digit (d : Nat) : Char :=
    if d < 10 then Char.ofNat ('0'.toNat + d)
    else Char.ofNat ((if upper then 'A' else 'a').toNat + d - 10)
  if base < 2 then [digit v]
  else
    let rec go : Nat → Nat → List Char → List Char
      | 0, _, acc => acc
      | fuel + 1, v, acc =>
        let acc := digit (v % base) :: acc
        if v / base = 0 then acc else go fuel (v / base) acc
    go (v + 1) v []

/-- An integer conversion: the digits in a base, padded with zeros to the precision, grouped
by thousands, with the sign or the alternate form's marker in front. -/
def integerText (spec : Spec) (base : Nat) (upper : Bool) (marker : String) (ordinal : Bool)
    (negative : Bool) (magnitude : Nat) : List Char :=
  let sign : Option Char := if negative then some '-' else spec.signChar
  let alternate := spec.alternate && magnitude ≠ 0
  let precision : Int := match spec.precision with
    | some p => p
    | none => -1
  let precision :=
    if spec.zeroPad && precision < (spec.width : Int) - (if sign.isSome then 1 else 0) then
      (spec.width : Int) - (if sign.isSome then 1 else 0)
    else precision
  let suffix :=
    if ordinal then
      let x := magnitude % 10
      let x := if x ≥ 4 || (magnitude / 10) % 10 = 1 then 0 else x
      match x with
      | 1 => ['s', 't']
      | 2 => ['n', 'd']
      | 3 => ['r', 'd']
      | _ => ['t', 'h']
    else []
  let ds := radixDigits base upper magnitude ++ suffix
  let ds := if (ds.length : Int) < precision then
      List.replicate (precision.toNat - ds.length) '0' ++ ds
    else ds
  let ds :=
    if spec.thousands then
      let n := ds.length
      (ds.zipIdx.map fun (c, j) =>
        let left := n - 1 - j
        if left % 3 = 0 && left > 0 then [c, ','] else [c]).flatten
    else ds
  let ds := match sign with
    | some c => c :: ds
    | none => ds
  if alternate then marker.toList ++ ds else ds

/-- The bytes of at most `n` characters of a text, or of `n` bytes. -/
def leadingBytes (bytes : List UInt8) (n : Nat) (characters : Bool) : List UInt8 :=
  if characters then
    let rec go : Nat → List UInt8 → List UInt8
      | 0, _ => []
      | _, [] => []
      | k + 1, b :: rest =>
        let tail := rest.takeWhile Utf8.isContinuation
        b :: tail ++ go k (rest.drop tail.length)
    go n bytes
  else bytes.take n

/-- The number of continuation bytes in a list of bytes. -/
def continuationCount (bytes : List UInt8) : Nat := (bytes.filter Utf8.isContinuation).length

/-- The arguments of a call, taken one at a time: a missing one is null. -/
def takeArg : List SqlValue → SqlValue × List SqlValue
  | v :: rest => (v, rest)
  | [] => (.null, [])

/-- The text of an argument as `printf` reads it, none for null. -/
def argText (v : SqlValue) : Option (List UInt8) := (SqlValue.textOf v).map Utf8.encode

/-- A 32-bit signed number from an integer, as a C `int` cast keeps its low bits. -/
def toInt32 (i : Int) : Int :=
  let w := i % 4294967296
  if w ≥ 2147483648 then w - 4294967296 else w

/-- What the flags of a conversion read: the spec, the conversion's letter (none when the
format ended), the rest of the format and of the arguments. -/
def readSpec : Nat → Spec → Char → List Char → List SqlValue →
    Spec × Option Char × List Char × List SqlValue
  | 0, spec, _, cs, args => (spec, none, cs, args)
  | fuel + 1, spec, c, cs, args =>
    let onward (spec : Spec) (cs : List Char) (args : List SqlValue) :=
      match cs with
      | [] => (spec, none, [], args)
      | d :: rest => readSpec fuel spec d rest args
    match c with
    | '-' => onward { spec with leftJustify := true } cs args
    | '+' => onward { spec with signChar := some '+' } cs args
    | ' ' => onward { spec with signChar := some ' ' } cs args
    | '#' => onward { spec with alternate := true } cs args
    | '!' => onward { spec with bang := true } cs args
    | '0' => onward { spec with zeroPad := true } cs args
    | ',' => onward { spec with thousands := true } cs args
    | 'l' =>
      match cs with
      | 'l' :: d :: rest => (spec, some d, rest, args)
      | d :: rest => if d = 'l' then (spec, none, rest, args) else (spec, some d, rest, args)
      | [] => (spec, none, [], args)
    | '*' =>
      let (v, args) := takeArg args
      let w := toInt32 v.intValue
      let spec := if w < 0 then { spec with leftJustify := true, width := (-w).toNat }
        else { spec with width := w.toNat }
      match cs with
      | d :: rest =>
        if d = '.' || d = 'l' then readSpec fuel spec d rest args else (spec, some d, rest, args)
      | [] => (spec, none, [], args)
    | '.' =>
      match cs with
      | '*' :: rest =>
        let (v, args) := takeArg args
        let p := toInt32 v.intValue
        let precision := if p < 0 then (if p ≥ -2147483647 then some (-p).toNat else none)
          else some p.toNat
        let spec := { spec with precision }
        match rest with
        | [] => (spec, none, [], args)
        | d :: rest => if d = 'l' then readSpec fuel spec d rest args else (spec, some d, rest, args)
      | _ =>
        let ds := cs.takeWhile Char.isDigit
        let rest := cs.dropWhile Char.isDigit
        let px := ds.foldl (fun n d => (n * 10 + (d.toNat - '0'.toNat)) % 4294967296) 0
        let spec := { spec with precision := some (px % 2147483648) }
        match rest with
        | [] => (spec, none, [], args)
        | d :: rest' => if d = 'l' then readSpec fuel spec d rest' args else (spec, some d, rest', args)
    | _ =>
      if c.isDigit then
        let ds := c :: cs.takeWhile Char.isDigit
        let rest := cs.dropWhile Char.isDigit
        let wx := ds.foldl (fun n d => (n * 10 + (d.toNat - '0'.toNat)) % 4294967296) 0
        let spec := { spec with width := wx % 2147483648 }
        match rest with
        | [] => (spec, none, [], args)
        | d :: rest' =>
          if d = '.' || d = 'l' then readSpec fuel spec d rest' args else (spec, some d, rest', args)
      else (spec, some c, cs, args)

/-- The bytes a text conversion writes, with the width it counts against: `q`, `Q` and `w`
double their quote character, `Q` encloses a text in quotes and writes `NULL` for null. -/
def escapedText (spec : Spec) (quote : UInt8) (enclose : Bool) (arg : Option (List UInt8)) :
    List UInt8 :=
  let text := arg.getD (Utf8.encode (if enclose then "NULL" else "(NULL)"))
  let taken := match spec.precision with
    | some p => leadingBytes text p spec.bang
    | none => text
  let doubled := taken.flatMap fun b => if b = quote then [b, b] else [b]
  if enclose && arg.isSome then quote :: doubled ++ [quote] else doubled

/-- The bytes of a conversion padded to its width with spaces; `characters` counts the width
in characters. -/
def padded (spec : Spec) (bytes : List UInt8) (characters : Bool) : List UInt8 :=
  let width := spec.width + (if characters then continuationCount bytes else 0)
  if bytes.length < width then
    let pad := List.replicate (width - bytes.length) (32 : UInt8)
    if spec.leftJustify then bytes ++ pad else pad ++ bytes
  else bytes

/-- One conversion: its bytes and the arguments left, or none when the letter ends the
output. -/
def convert (spec : Spec) (c : Char) (args : List SqlValue) :
    Option (List UInt8 × List SqlValue) :=
  let ascii (cs : List Char) : List UInt8 := Utf8.encode (String.ofList cs)
  -- an integer conversion: signed or as an unsigned 64-bit number, grouped by thousands only
  -- in decimal
  let integer (signed : Bool) (base : Nat) (upper : Bool) (marker : String) (ordinal : Bool)
      (grouping : Bool) :=
    let (v, args) := takeArg args
    let i := v.intValue
    let spec := { spec with
      thousands := spec.thousands && grouping,
      signChar := if signed then spec.signChar else none }
    let (negative, magnitude) :=
      if signed then (decide (i < 0), i.natAbs)
      else (false, if i < 0 then (i + 18446744073709551616).toNat else i.toNat)
    some (padded spec (ascii (integerText spec base upper marker ordinal negative magnitude)) false,
      args)
  let real (style : RealStyle) (upper : Bool) :=
    let (v, args) := takeArg args
    some (padded spec (Utf8.encode (realText spec style upper v.realValue)) false, args)
  match c with
  | 'd' | 'i' => integer true 10 false "" false true
  | 'r' => integer true 10 false "" true false
  | 'u' => integer false 10 false "" false true
  | 'x' => integer false 16 false "0x" false false
  | 'X' => integer false 16 true "0X" false false
  | 'o' => integer false 8 false "0" false false
  | 'p' => integer false 16 true "0x" false false
  | 'f' => real .fixed false
  | 'e' => real .exponent false
  | 'E' => real .exponent true
  | 'g' => real .general false
  | 'G' => real .general true
  | 's' | 'z' =>
    let (v, args) := takeArg args
    let text := (argText v).getD []
    let text := match spec.precision with
      | some p => leadingBytes text p spec.bang
      | none => text
    some (padded spec text spec.bang, args)
  | 'q' =>
    let (v, args) := takeArg args
    some (padded spec (escapedText spec 39 false (argText v)) spec.bang, args)
  | 'Q' =>
    let (v, args) := takeArg args
    some (padded spec (escapedText spec 39 true (argText v)) spec.bang, args)
  | 'w' =>
    let (v, args) := takeArg args
    some (padded spec (escapedText spec 34 false (argText v)) spec.bang, args)
  | 'c' =>
    let (v, args) := takeArg args
    let one : List UInt8 := match argText v with
      | some (b :: rest) =>
        if b &&& 0xC0 = 0xC0 then b :: (rest.takeWhile Utf8.isContinuation).take 3 else [b]
      | some [] => [0]
      | none => [0]
    let count := match spec.precision with
      | some p => if p > 1 then p else 1
      | none => 1
    let width := spec.width - (count - 1)
    let repeated := (List.replicate (count - 1) one).flatten
    if count > 1 && width > 1 && !spec.leftJustify then
      let pad := List.replicate (width - 1) (32 : UInt8)
      some (pad ++ repeated ++ one, args)
    else
      some (repeated ++ padded { spec with width } one true, args)
  | '%' => some (padded spec [37] false, args)
  | 'n' => some ([], args)
  | _ => none

/-- The most bytes one conversion may be asked to write through its width or precision. The
database refuses an output of a billion bytes or more; below that, a conversion this wide is
not built, and the whole output is taken as refused. -/
def widthLimit : Nat := 4194304

/-- Whether a conversion would write more than `widthLimit` bytes: its width, or the precision
of a number or a repeated character, is that large. -/
def oversized (spec : Spec) (conv : Char) : Bool :=
  widthLimit ≤ spec.width ||
    ("diuxXocfeEgG".toList.contains conv && (spec.precision.getD 0) ≥ widthLimit)

/-- The output of a format from a position on; none when a conversion is oversized. -/
def formatFrom : Nat → List Char → List SqlValue → Option (List UInt8)
  | 0, _, _ => some []
  | _, [], _ => some []
  | fuel + 1, c :: cs, args =>
    if c ≠ '%' then
      let lit := (c :: cs).takeWhile (· ≠ '%')
      (Utf8.encode (String.ofList lit) ++ ·) <$> formatFrom fuel ((c :: cs).drop lit.length) args
    else
      match cs with
      | [] => some [37]
      | d :: rest =>
        match readSpec (rest.length + 2) {} d rest args with
        | (_, none, _, _) => some []
        | (spec, some conv, rest, args) =>
          if oversized spec conv then none
          else
            match convert spec conv args with
            | none => some []
            | some (bytes, args) => (bytes ++ ·) <$> formatFrom fuel rest args

/-- `printf(format, args…)`: the text a format makes of its arguments; null when there is no
format or it is null, or when the output is too big to build. -/
def printf : List SqlValue → SqlValue
  | [] => .null
  | .null :: _ => .null
  | f :: args =>
    let fmt := (SqlValue.textOf f).getD ""
    match formatFrom (fmt.length + 1) fmt.toList args with
    | some bytes => .text (Utf8.lossy bytes)
    | none => .null

end SqlFormat

end TradeLedger
