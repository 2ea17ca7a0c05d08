import TradeLedger.Number.Shortest
import TradeLedger.Number.Binary64
/-!
# Exact decimals

Prices and profits are summed and compared in exact decimal arithmetic. A decimal is an integer
coefficient times a power of ten; a quotient is cut to sixteen places and rounded half away from
zero. A float becomes the decimal of its shortest digits, and NaN and the infinities have none;
back to a float is the nearest binary64 value.

## Main definitions

* `Decimal`, `Decimal.div`: a decimal, and the quotient.
* `Decimal.ofFloat`, `Decimal.toFloat`: to and from floats.
-/

namespace TradeLedger

/-- A decimal `coeff * 10 ^ exp`. The same number may have several exponents. -/
structure Decimal where
  coeff : Int
  exp : Int
  deriving Repr, DecidableEq, Inhabited

namespace Decimal

def zero : Decimal := ⟨0, 0⟩

/-- Places after the point kept by a quotient. -/
def divisionPlaces : Nat := 16

/-- The decimal of a float's shortest digits; the refusal text for NaN and infinities. -/
def ofFloat (x : Float) : Except String Decimal :=
  match Binary64.ofFloat x with
  | .nan => .error "Cannot create a Decimal from NaN"
  | .infinite neg => .error ("Cannot create a Decimal from " ++ (if neg then "-Inf" else "+Inf"))
  | .finite neg m e =>
    if m = 0 then .ok zero
    else
      let d := Binary64.shortest m e
      .ok ⟨if neg then -(d.coeff : Int) else d.coeff, d.exp⟩

/-- The coefficient of `d` at the smaller exponent `e` (`e ≤ d.exp`). -/
def coeffAt (d : Decimal) (e : Int) : Int := d.coeff * Int.pow 10 (d.exp - e).toNat

/-- Sum, at the smaller exponent. -/
def add (a b : Decimal) : Decimal :=
  let e := min a.exp b.exp
  ⟨a.coeffAt e + b.coeffAt e, e⟩

/-- Negation. -/
def neg (a : Decimal) : Decimal := ⟨-a.coeff, a.exp⟩

/-- Difference, at the smaller exponent. -/
def sub (a b : Decimal) : Decimal := a.add b.neg

/-- Product. -/
def mul (a b : Decimal) : Decimal := ⟨a.coeff * b.coeff, a.exp + b.exp⟩

/-- Magnitude. -/
def abs (a : Decimal) : Decimal := ⟨a.coeff.natAbs, a.exp⟩

/-- Compare two decimals by value. -/
def compare (a b : Decimal) : Ordering :=
  let e := min a.exp b.exp
  Ord.compare (a.coeffAt e) (b.coeffAt e)

def isPositive (a : Decimal) : Bool := 0 < a.coeff

def isZero (a : Decimal) : Bool := a.coeff == 0

/-- Strictly greater. -/
def gt (a b : Decimal) : Bool := a.compare b == .gt

/-- `a / b` cut to `places` places, rounded half away from zero; `none` when `b` is zero. -/
def divRound (a b : Decimal) (places : Nat) : Option Decimal :=
  if b.coeff = 0 then none
  else
    -- a / b * 10^places = a.coeff * 10^(a.exp - b.exp + places) / b.coeff
    let shift : Int := a.exp - b.exp + places
    let (num, den) : Int × Int :=
      if 0 ≤ shift then (a.coeff * Int.pow 10 shift.toNat, b.coeff)
      else (a.coeff, b.coeff * Int.pow 10 (-shift).toNat)
    let q := num.tdiv den
    let r := num.tmod den
    let q := if 2 * r.natAbs < den.natAbs then q
      else if (num < 0) != (den < 0) then q - 1 else q + 1
    some ⟨q, -(places : Int)⟩

/-- Quotient to `divisionPlaces` places; `none` when dividing by zero. -/
def div (a b : Decimal) : Option Decimal := divRound a b divisionPlaces

/-- Round to `places` places after the point, half away from zero. -/
def round (a : Decimal) (places : Int) : Decimal :=
  if a.exp = -places then a
  else
    -- truncate toward zero to one more place
    let target := -places - 1
    let c : Int :=
      if a.exp ≤ target then a.coeff.tdiv (Int.pow 10 (target - a.exp).toNat)
      else a.coeff * Int.pow 10 (a.exp - target).toNat
    let c := if c < 0 then c - 5 else c + 5
    ⟨c.tdiv 10, -places⟩

def toFloat (a : Decimal) : Float :=
  let neg := decide (a.coeff < 0)
  let m := a.coeff.natAbs
  if 0 ≤ a.exp then Binary64.nearest neg (m * Nat.pow 10 a.exp.toNat) 1
  else Binary64.nearest neg m (Nat.pow 10 (-a.exp).toNat)

/-- Positional text without trailing fractional zeros. -/
def text (a : Decimal) : String :=
  if 0 ≤ a.exp then toString (a.coeff * Int.pow 10 a.exp.toNat)
  else
    let digits := Nat.toDigits 10 a.coeff.natAbs
    let frac := (-a.exp).toNat
    let (intPart, fracPart) :=
      if frac < digits.length then (digits.take (digits.length - frac), digits.drop (digits.length - frac))
      else (['0'], List.replicate (frac - digits.length) '0' ++ digits)
    let fracPart := (fracPart.reverse.dropWhile (· == '0')).reverse
    let body := if fracPart.isEmpty then String.ofList intPart
      else String.ofList (intPart ++ '.' :: fracPart)
    if a.coeff < 0 then "-" ++ body else body

/-- An optional sign and at least one digit, as an integer. -/
def readInteger (s : List Char) : Option Int :=
  let (neg, body) := match s with
    | '-' :: rest => (true, rest)
    | '+' :: rest => (false, rest)
    | _ => (false, s)
  if body.isEmpty || !body.all Char.isDigit then none
  else
    let n : Nat := body.foldl (fun (acc : Nat) c => acc * 10 + (c.toNat - 48)) 0
    some (if neg then -(n : Int) else n)

/-- Read decimal text: digits with at most one point, then an optional `e` exponent that fits
in 32 bits. The sign is read after the point is taken out, so `.-5` is `-0.05`; the resulting
exponent must fit in 32 bits too. -/
def ofString? (s : String) : Option Decimal := do
  let cs := s.toList
  let (mant, expo) : List Char × Int ← match cs.findIdx? (fun c => c == 'e' || c == 'E') with
    | some i => do
      let e ← readInteger (cs.drop (i + 1))
      if e < -2147483648 ∨ 2147483647 < e then none
      pure (cs.take i, e)
    | none => pure (cs, 0)
  let points := mant.filter (· == '.')
  if points.length > 1 then none
  let (digits, shift) := match mant.findIdx? (· == '.') with
    | some i => (mant.take i ++ mant.drop (i + 1), ((mant.drop (i + 1)).length : Int))
    | none => (mant, 0)
  let c ← readInteger digits
  let e := expo - shift
  if e < -2147483648 ∨ 2147483647 < e then none
  pure ⟨c, e⟩

end Decimal

end TradeLedger
