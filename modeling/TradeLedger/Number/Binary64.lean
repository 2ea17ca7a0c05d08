/-!
# Binary64 words as exact numbers

A double-precision word is a sign, an eleven-bit exponent and a 52-bit fraction. Everything the
library prints or reads about floats goes through the exact value of that word, so no step
depends on the runtime's printer or on a rounding routine a proof cannot see. Reading goes the
other way, to the word nearest to a ratio, ties to the even mantissa.

## Main definitions

* `Binary64.ofBits`, `Binary64.ofFloat`: the exact value of a word.
* `Binary64.nearest`: the word nearest to a positive ratio.
-/

namespace TradeLedger

/-- The value of a binary64 word. A finite value is `mantissa * 2 ^ exponent`; zero has
mantissa `0` and keeps its sign. -/
inductive Binary64 where
  | nan
  | infinite (negative : Bool)
  | finite (negative : Bool) (mantissa : Nat) (exponent : Int)
  deriving Repr, DecidableEq, Inhabited

namespace Binary64

/-- Exponent of the lowest bit of a subnormal word. -/
def minExponent : Int := -1074

/-- Largest exponent of the lowest bit of a finite word. -/
def maxExponent : Int := 971

/-- Split a 64-bit word into the value it denotes. -/
def ofBits (w : UInt64) : Binary64 :=
  let n : Nat := w.toNat
  let negative := decide (Nat.pow 2 63 ≤ n)
  let biased : Nat := (n / Nat.pow 2 52) % Nat.pow 2 11
  let fraction : Nat := n % Nat.pow 2 52
  if biased = 2047 then
    if fraction = 0 then .infinite negative else .nan
  else if biased = 0 then .finite negative fraction minExponent
  else .finite negative (fraction + Nat.pow 2 52) ((biased : Int) - 1075)

/-- The exact value of a `Float`. -/
def ofFloat (x : Float) : Binary64 := ofBits x.toBits

/-- Whether `num ≥ den * 2 ^ k`, for an integer `k` of either sign. -/
def atLeastPow2 (num den : Nat) (k : Int) : Bool :=
  if 0 ≤ k then decide (den * Nat.pow 2 k.toNat ≤ num) else decide (den ≤ num * Nat.pow 2 (-k).toNat)

/-- The exponent of the lowest significand bit that the nearest word to `num / den` uses:
the `e` with `2 ^ 52 ≤ num / (den * 2 ^ e) < 2 ^ 53`, raised to `minExponent` below the normal
range. -/
def lsbExponent (num den : Nat) : Int :=
  let guess : Int := (Nat.log2 num : Int) - (Nat.log2 den : Int)
  -- the binary logarithm of the ratio is `guess` or one less
  let top := if atLeastPow2 num den guess then guess else guess - 1
  max (top - 52) minExponent

/-- The ratio `num / den` scaled by `2 ^ -e`, as a numerator and denominator. -/
def scaleDown (num den : Nat) (e : Int) : Nat × Nat :=
  if 0 ≤ e then (num, den * Nat.pow 2 e.toNat) else (num * Nat.pow 2 (-e).toNat, den)

/-- Round `n / d` to the nearest natural number, a tie going to the even one. -/
def roundHalfEven (n d : Nat) : Nat :=
  let q := n / d
  let r := n % d
  if d < 2 * r ∨ (2 * r = d ∧ q % 2 = 1) then q + 1 else q

/-- Significand and exponent of the word nearest to the positive ratio `num / den`, before the
overflow check: the significand is below `2 ^ 53`, and at least `2 ^ 52` unless the exponent is
`minExponent`. -/
def nearestParts (num den : Nat) : Nat × Int :=
  let e := lsbExponent num den
  let (n, d) := scaleDown num den e
  let q := roundHalfEven n d
  if q = Nat.pow 2 53 then (Nat.pow 2 52, e + 1) else (q, e)

/-- Assemble a word from a sign, a significand below `2 ^ 53` and the exponent of its lowest
bit (at least `minExponent`, at most `maxExponent`). -/
def assemble (negative : Bool) (q : Nat) (e : Int) : Float :=
  let magnitude :=
    if q < Nat.pow 2 52 then q else (e + 1075).toNat * Nat.pow 2 52 + (q - Nat.pow 2 52)
  let sign := if negative then Nat.pow 2 63 else 0
  Float.ofBits (UInt64.ofNat (sign + magnitude))

def infinity (negative : Bool) : Float :=
  Float.ofBits (UInt64.ofNat ((if negative then Nat.pow 2 63 else 0) + 2047 * Nat.pow 2 52))

/-- The `Float` nearest to `±num / den`, ties to even; an infinity when the rounded value is
too large, a zero of the sign when `num` is zero. -/
def nearest (negative : Bool) (num den : Nat) : Float :=
  if num = 0 then assemble negative 0 minExponent
  else if den = 0 then infinity negative
  else
    let (q, e) := nearestParts num den
    if maxExponent < e then infinity negative else assemble negative q e

/-- Whether the nearest word to `num / den` is too large to be finite. -/
def overflows (num den : Nat) : Bool :=
  num ≠ 0 && den ≠ 0 && decide (maxExponent < (nearestParts num den).2)

/-- The `Float` of an integer, rounded to nearest. -/
def ofInt (i : Int) : Float := nearest (decide (i < 0)) i.natAbs 1

end Binary64

end TradeLedger
