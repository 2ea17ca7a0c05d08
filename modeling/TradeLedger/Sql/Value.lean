import TradeLedger.Number.Shortest
/-!
# Values of the database

A value is null, a 64-bit integer, a binary64 real, a text or a blob. A column's affinity applies
to every value stored: a numeric text becomes its number in a numeric column, a number its text
in a text column. Arithmetic reads a text's leading numeral. A real is written with fifteen
significant digits, rounded half up, positionally or with a two-digit exponent: `100.0`,
`1.0e+20`. A NaN is stored as null.

## Main definitions

* `SqlValue`, `Affinity`: a value and a column's affinity.
* `readReal`, `readInteger`: the numeral readers.
-/

namespace TradeLedger

inductive SqlValue where
  | null
  | integer (i : Int)
  | real (x : Float)
  | text (s : String)
  | blob (bytes : List UInt8)
  deriving Repr, Inhabited, BEq

/-- What a column prefers to hold: the kind its values are converted to when stored. -/
inductive Affinity where
  | blob
  | text
  | numeric
  | integer
  | real
  deriving Repr, DecidableEq, Inhabited

/-- How texts are compared: byte by byte, with ASCII letters folded, or with trailing spaces
ignored. -/
inductive Collation where
  | binary
  | noCase
  | rightTrim
  deriving Repr, DecidableEq, Inhabited

namespace SqlNumber

/-- The least 64-bit integer. -/
def int64Min : Int := -9223372036854775808

/-- The greatest 64-bit integer. -/
def int64Max : Int := 9223372036854775807

/-- Whether an integer fits in 64 bits. -/
def fits (i : Int) : Bool := decide (int64Min ≤ i) && decide (i ≤ int64Max)

/-- The space characters that readers skip around a numeral. -/
def isSpace (c : Char) : Bool :=
  c == ' ' || c == '\t' || c == '\n' || c == '\x0b' || c == '\x0c' || c == '\r'

/-- The value of a decimal digit. -/
def digitOf (c : Char) : Nat := c.toNat - '0'.toNat

/-- The number a run of decimal digits spells. -/
def digitsValue (ds : List Char) : Nat := ds.foldl (fun n c => n * 10 + digitOf c) 0

/-- What the real reader found at the start of a text. -/
structure RealScan where
  negative : Bool
  /-- the digits of the mantissa as one number -/
  coeff : Nat
  /-- the power of ten the coefficient is scaled by -/
  scale : Int
  /-- how many mantissa digits were read -/
  digitCount : Nat
  /-- no point and no exponent were read -/
  integral : Bool
  /-- an exponent mark, if any, was followed by digits -/
  exponentOk : Bool
  /-- what follows the numeral and the spaces after it -/
  rest : List Char
  deriving Repr, Inhabited

/-- Read the exponent after an exponent mark: its sign, its digits and what follows. -/
def readExponent (cs : List Char) : Int × Bool × List Char :=
  let (neg, cs) := match cs with
    | '-' :: r => (true, r)
    | '+' :: r => (false, r)
    | r => (false, r)
  let ds := cs.takeWhile Char.isDigit
  -- a huge exponent only has to stay huge
  let v : Int := min (digitsValue (ds.take 6)) 100000
  (if neg then -v else v, !ds.isEmpty, cs.dropWhile Char.isDigit)

/-- Read the leading real numeral of a text. -/
def readReal (s : List Char) : RealScan :=
  let cs := s.dropWhile isSpace
  let (negative, cs) := match cs with
    | '-' :: r => (true, r)
    | '+' :: r => (false, r)
    | r => (false, r)
  let whole := cs.takeWhile Char.isDigit
  let cs := cs.dropWhile Char.isDigit
  let (frac, pointed, cs) := match cs with
    | '.' :: r => (r.takeWhile Char.isDigit, true, r.dropWhile Char.isDigit)
    | r => ([], false, r)
  let digitCount := whole.length + frac.length
  let coeff := digitsValue (whole ++ frac)
  let (exp, exponentOk, marked, cs) := match cs with
    | c :: r =>
      if (c == 'e' || c == 'E') && 0 < digitCount then
        let (e, ok, r) := readExponent r
        (e, ok, true, r)
      else (0, true, false, c :: r)
    | [] => (0, true, false, [])
  { negative, coeff, scale := exp - frac.length, digitCount,
    integral := !pointed && !marked, exponentOk, rest := cs.dropWhile isSpace }

/-- How a text reads as a real: `1` when it is wholly an integer numeral, `2` when it is
wholly a real numeral, `-1` when a real numeral is followed by other text, `0` otherwise. -/
def RealScan.kind (r : RealScan) : Int :=
  if r.rest.isEmpty && 0 < r.digitCount && r.exponentOk then (if r.integral then 1 else 2)
  else if !r.integral && r.exponentOk && 0 < r.digitCount then -1
  else 0

/-- The real nearest to what was read. -/
def RealScan.value (r : RealScan) : Float :=
  if r.coeff = 0 then Binary64.nearest r.negative 0 1
  else
    let magnitude := (Nat.toDigits 10 r.coeff).length + r.scale
    if 400 < magnitude then Binary64.infinity r.negative
    else if magnitude < -400 then Binary64.nearest r.negative 0 1
    else if 0 ≤ r.scale then Binary64.nearest r.negative (r.coeff * Nat.pow 10 r.scale.toNat) 1
    else Binary64.nearest r.negative r.coeff (Nat.pow 10 (-r.scale).toNat)

/-- Read the leading integer of a text, clamped to 64 bits, with a code: `-1` when there are
no digits, `1` when other text follows, `2` when the value overflows, `3` when it is exactly
`2 ^ 63`, and `0` otherwise. -/
def readInteger (s : List Char) : Int × Int :=
  let cs := s.dropWhile isSpace
  let (negative, cs) := match cs with
    | '-' :: r => (true, r)
    | '+' :: r => (false, r)
    | r => (false, r)
  let zeros := cs.takeWhile (· == '0')
  let cs := cs.dropWhile (· == '0')
  let ds := cs.takeWhile Char.isDigit
  let rest := cs.dropWhile Char.isDigit
  let u := digitsValue ds
  let code : Int :=
    if ds.isEmpty && zeros.isEmpty then -1
    else if rest.any (fun c => !isSpace c) then 1
    else 0
  let bound := Nat.pow 2 63
  if u < bound then (if negative then -(u : Int) else u, code)
  else if u = bound then
    if negative then (int64Min, code) else (int64Max, 3)
  else (if negative then int64Min else int64Max, 2)

/-- The integer a real truncates to, clamped to 64 bits. -/
def truncate (x : Float) : Int :=
  match Binary64.ofFloat x with
  | .nan => 0
  | .infinite neg => if neg then int64Min else int64Max
  | .finite neg m e =>
    let (tn, td) := Binary64.pow2Ratio e
    let q : Int := (m * tn / td : Nat)
    let v := if neg then -q else q
    if v < int64Min then int64Min else if int64Max < v then int64Max else v

/-- The integer of a real for the exactness test: clamped just inside the 64-bit range. -/
def toInt64Near (x : Float) : Int :=
  if x < -9223372036854774784.0 then int64Min
  else if 9223372036854774784.0 < x then int64Max
  else truncate x

/-- Whether a real is exactly an integer of magnitude below `2 ^ 51`, or zero. -/
def sameAsInt (x : Float) (i : Int) : Bool :=
  x == 0.0 ||
    (x.toBits == (Binary64.ofInt i).toBits && decide (-2251799813685248 ≤ i) &&
      decide (i < 2251799813685248))

/-- The decimal digits of a positive real rounded half up to fifteen significant digits,
and the exponent of the leading one. -/
def fifteenDigits (m : Nat) (e : Int) : Nat × Int :=
  let x := Binary64.decimalExponent m e
  let k := x - 14
  let q := Binary64.floorScaled m e k
  let up := Binary64.compareScaled (2 * m) e (2 * q + 1) k != .lt
  let n := if up then q + 1 else q
  if n = Nat.pow 10 15 then (Nat.pow 10 14, x + 1) else (n, x)

/-- Two decimal digits of an exponent, three when it needs them. -/
def exponentDigits (x : Nat) : String :=
  let ds := Nat.toDigits 10 x
  String.ofList (if ds.length < 2 then '0' :: ds else ds)

end SqlNumber

/-- The affinity a declared column type gives: an `INT` in it makes integers, else `CHAR`,
`CLOB` or `TEXT` makes texts, else `BLOB` or no type at all keeps values as they are, else
`REAL`, `FLOA` or `DOUB` makes reals, and any other type makes numbers. -/
def Affinity.ofDeclared (declared : String) : Affinity :=
  let up := declared.toUpper
  let has (w : String) := (up.splitOn w).length > 1
  if has "INT" then .integer
  else if has "CHAR" || has "CLOB" || has "TEXT" then .text
  else if has "BLOB" || declared.trimAscii.isEmpty then .blob
  else if has "REAL" || has "FLOA" || has "DOUB" then .real
  else .numeric

namespace SqlValue

open SqlNumber

/-- The text of a real: fifteen significant digits, positionally with a digit after the point
when the leading digit's exponent is from `-4` to `14`, otherwise with an exponent. -/
def realText (x : Float) : String :=
  match Binary64.ofFloat x with
  | .nan => "NaN"
  | .infinite neg => if neg then "-Inf" else "Inf"
  | .finite neg m e =>
    if m = 0 then "0.0"
    else
      let (n, x) := fifteenDigits m e
      let digits := (Nat.toDigits 10 n).reverse.dropWhile (· == '0') |>.reverse
      let sign := if neg then "-" else ""
      if x < -4 || 14 < x then
        let frac := match digits.drop 1 with
          | [] => ['0']
          | ds => ds
        sign ++ String.ofList (digits.take 1 ++ '.' :: frac) ++ "e" ++
          (if x < 0 then "-" else "+") ++ exponentDigits x.natAbs
      else if 0 ≤ x then
        let width := x.toNat + 1
        let whole := digits.take width ++ List.replicate (width - digits.length) '0'
        let frac := match digits.drop width with
          | [] => ['0']
          | ds => ds
        sign ++ String.ofList (whole ++ '.' :: frac)
      else
        sign ++ "0." ++ String.ofList (List.replicate ((-x).toNat - 1) '0' ++ digits)

/-- The text of bytes read as UTF-8, a byte that does not decode standing for itself. -/
def bytesText (bs : List UInt8) : String :=
  match String.fromUTF8? (ByteArray.mk bs.toArray) with
  | some s => s
  | none => String.ofList (bs.map fun b => Char.ofNat b.toNat)

/-- The text of a value, as concatenation and text columns see it; none for null. -/
def textOf : SqlValue → Option String
  | .null => none
  | .integer i => some (toString i)
  | .real x => some (realText x)
  | .text s => some s
  | .blob bs => some (bytesText bs)

def kindName : SqlValue → String
  | .null => "null"
  | .integer _ => "integer"
  | .real _ => "real"
  | .text _ => "text"
  | .blob _ => "blob"

/-- The number a text reads as in arithmetic: an integer when the text is an integer numeral
or its real is a small integer, else the real of its leading numeral. -/
def numericOfText (s : String) : SqlValue :=
  let scan := readReal s.toList
  let (iv, icode) := readInteger s.toList
  if (scan.kind == 0 || scan.kind == 1) && icode ≤ 1 then .integer iv
  else
    let r := scan.value
    let ix := toInt64Near r
    if sameAsInt r ix then .integer ix else .real r

/-- The value as a number for arithmetic: null stays null. -/
def numeric : SqlValue → SqlValue
  | .text s => numericOfText s
  | .blob bs => numericOfText (bytesText bs)
  | v => v

/-- The real reading of a value: zero for null, the leading numeral of a text. -/
def realValue : SqlValue → Float
  | .null => 0.0
  | .integer i => Binary64.ofInt i
  | .real x => x
  | .text s => (readReal s.toList).value
  | .blob bs => (readReal (bytesText bs).toList).value

/-- The integer reading of a value: zero for null, a real truncated, the leading integer of a
text. -/
def intValue : SqlValue → Int
  | .null => 0
  | .integer i => i
  | .real x => truncate x
  | .text s => (readInteger s.toList).1
  | .blob bs => (readInteger (bytesText bs).toList).1

/-- The truth of a value in a condition: none for null, else whether it is not zero. -/
def truth : SqlValue → Option Bool
  | .null => none
  | .integer i => some (i != 0)
  | v => some (v.realValue != 0.0)

/-- A truth as a value: `1`, `0`, or null. -/
def ofTruth : Option Bool → SqlValue
  | some true => .integer 1
  | some false => .integer 0
  | none => .null

/-- A real stored as an integer when it is one exactly and lies strictly inside the 64-bit
range. -/
def integerAffinity (x : Float) : SqlValue :=
  let ix := truncate x
  if Binary64.ofInt ix == x && int64Min < ix && ix < int64Max then .integer ix else .real x

/-- A text stored in a numeric column: the number it reads as, when it reads whole. -/
def numericAffinity (s : String) : SqlValue :=
  let scan := readReal s.toList
  if scan.kind ≤ 0 then .text s
  else
    let r := scan.value
    let near := toInt64Near r
    let asInt :=
      if sameAsInt r near then some near
      else
        let (iv, code) := readInteger s.toList
        if code == 0 then some iv else none
    match scan.kind == 1, asInt with
    | true, some i => .integer i
    | _, _ => integerAffinity r

/-- A value as a column of the affinity stores it. -/
def withAffinity : Affinity → SqlValue → SqlValue
  | .blob, v => v
  | .text, .integer i => .text (toString i)
  | .text, .real x => .text (realText x)
  | .text, v => v
  | .real, .integer i => .real (Binary64.ofInt i)
  | .real, .text s =>
    match numericAffinity s with
    | .integer i => .real (Binary64.ofInt i)
    | v => v
  | .real, v => v
  | _, .real x => integerAffinity x
  | _, .text s => numericAffinity s
  | _, v => v

/-- A value converted by a cast to a type of the affinity. -/
def cast (aff : Affinity) (v : SqlValue) : SqlValue :=
  match aff, v with
  | _, .null => .null
  | .blob, .blob bs => .blob bs
  | .blob, v => .blob ((v.textOf.getD "").toUTF8.toList)
  | .text, v => .text (v.textOf.getD "")
  | .real, v => .real v.realValue
  | .integer, v => .integer v.intValue
  | .numeric, .text s => numericOfText s
  | .numeric, .blob bs => numericOfText (bytesText bs)
  | .numeric, v => v

/-- Compare an integer with a real exactly; an infinity is beyond every integer. -/
def compareIntReal (i : Int) (x : Float) : Ordering :=
  match Binary64.ofFloat x with
  | .nan => .gt
  | .infinite neg => if neg then .gt else .lt
  | .finite neg m e =>
    let (tn, td) := Binary64.pow2Ratio e
    let r : Int := (m * tn : Nat)
    compare (i * (td : Int)) (if neg then -r else r)

/-- Compare two reals; a NaN counts as below everything. -/
def compareReals (x y : Float) : Ordering :=
  if x < y then .lt else if x == y then .eq else if y < x then .gt
  else if x.isNaN then (if y.isNaN then .eq else .lt) else .gt

/-- Compare two lists of bytes, a list that is a start of the other coming first. -/
def compareBytes : List UInt8 → List UInt8 → Ordering
  | [], [] => .eq
  | [], _ :: _ => .lt
  | _ :: _, [] => .gt
  | a :: as, b :: bs => if a < b then .lt else if b < a then .gt else compareBytes as bs

/-- A text as a collation compares it. -/
def collated : Collation → String → List UInt8
  | .binary, s => s.toUTF8.toList
  | .noCase, s => s.toUTF8.toList.map fun b => if 65 ≤ b && b ≤ 90 then b + 32 else b
  | .rightTrim, s => (s.toUTF8.toList.reverse.dropWhile (· == 32)).reverse

/-- The rank of a value's kind in the order of values: null, numbers, texts, blobs. -/
def rank : SqlValue → Nat
  | .null => 0
  | .integer _ => 1
  | .real _ => 1
  | .text _ => 2
  | .blob _ => 3

/-- The order of two values: nulls first, then numbers by value, texts by the collation, and
blobs by their bytes. -/
def order (coll : Collation) : SqlValue → SqlValue → Ordering
  | .integer a, .integer b => compare a b
  | .integer a, .real y => compareIntReal a y
  | .real x, .integer b => (compareIntReal b x).swap
  | .real x, .real y => compareReals x y
  | .text a, .text b => compareBytes (collated coll a) (collated coll b)
  | .blob a, .blob b => compareBytes a b
  | a, b => compare a.rank b.rank

/-- The arithmetic operators. -/
inductive ArithOp where
  | add
  | sub
  | mul
  | div
  | rem
  deriving Repr, DecidableEq, Inhabited

/-- An operator on reals; none for a quotient by zero or a result that is not a number. -/
def realArith (op : ArithOp) (a b : SqlValue) : SqlValue :=
  let x := a.realValue
  let y := b.realValue
  let r : Option Float := match op with
    | .add => some (x + y)
    | .sub => some (x - y)
    | .mul => some (x * y)
    | .div => if y == 0.0 then none else some (x / y)
    | .rem =>
      let d := b.intValue
      if d == 0 then none
      else some (Binary64.ofInt (Int.tmod a.intValue (if d == -1 then 1 else d)))
  match r with
  | some v => if v.isNaN then .null else .real v
  | none => .null

/-- An operator on two values: null when either is null, 64-bit integer arithmetic when both
are integers and the result fits, real arithmetic otherwise. A quotient or remainder by zero
is null. -/
def arith (op : ArithOp) (a b : SqlValue) : SqlValue :=
  match a.numeric, b.numeric with
  | .null, _ => .null
  | _, .null => .null
  | .integer x, .integer y =>
    let exact : Option Int := match op with
      | .add => some (x + y)
      | .sub => some (x - y)
      | .mul => some (x * y)
      | .div => if y == 0 then none else some (Int.tdiv x y)
      | .rem => if y == 0 then none else some (Int.tmod x (if y == -1 then 1 else y))
    match exact with
    | none => .null
    | some r => if fits r then .integer r else realArith op (.integer x) (.integer y)
  | na, nb => realArith op na nb

end SqlValue

end TradeLedger
