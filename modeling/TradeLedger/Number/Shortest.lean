import TradeLedger.Number.Binary64
/-!
# Shortest decimal digits of a binary64 value

Every finite word owns an interval of reals that round to it. `Binary64.shortest` returns the
decimal with the fewest significant digits in the interval and, of those, the one nearest to the
word's value. For a fixed number of digits the candidates form a grid, and if any grid point lies
in the interval then one of the two around the value does, so each length tests two candidates.

## Main definitions

* `Binary64.shortest`: the shortest digits of a word.
-/

namespace TradeLedger

/-- A decimal number `coeff * 10 ^ exp`. -/
structure Digits where
  coeff : Nat
  exp : Int
  deriving Repr, DecidableEq, Inhabited

namespace Digits

/-- Drop trailing zero digits, raising the exponent; at most `fuel` of them. -/
def trim : Nat → Digits → Digits
  | 0, d => d
  | fuel + 1, d =>
    if d.coeff ≠ 0 ∧ d.coeff % 10 = 0 then trim fuel ⟨d.coeff / 10, d.exp + 1⟩ else d

/-- The digits of the coefficient, most significant first. -/
def digitChars (d : Digits) : List Char := (Nat.toDigits 10 d.coeff)

/-- The exponent of the leading digit: `d` lies in `[10 ^ lead, 10 ^ (lead + 1))`. -/
def lead (d : Digits) : Int := d.exp + (d.digitChars.length : Int) - 1

end Digits

namespace Binary64

/-- `2 ^ e` as a numerator and a denominator. -/
def pow2Ratio (e : Int) : Nat × Nat :=
  if 0 ≤ e then (Nat.pow 2 e.toNat, 1) else (1, Nat.pow 2 (-e).toNat)

/-- `10 ^ k` as a numerator and a denominator. -/
def pow10Ratio (k : Int) : Nat × Nat :=
  if 0 ≤ k then (Nat.pow 10 k.toNat, 1) else (1, Nat.pow 10 (-k).toNat)

/-- Compare `a * 2 ^ e` with `c * 10 ^ k` exactly. -/
def compareScaled (a : Nat) (e : Int) (c : Nat) (k : Int) : Ordering :=
  let (tn, td) := pow2Ratio e
  let (pn, pd) := pow10Ratio k
  compare (a * tn * pd) (c * pn * td)

/-- `⌊a * 2 ^ e / 10 ^ k⌋`. -/
def floorScaled (a : Nat) (e : Int) (k : Int) : Nat :=
  let (tn, td) := pow2Ratio e
  let (pn, pd) := pow10Ratio k
  (a * tn * pd) / (td * pn)

/-- Move a guess `d` of `⌊log10 (m * 2 ^ e)⌋` to the right value, one step at a time. -/
def fixExponent (m : Nat) (e : Int) : Nat → Int → Int
  | 0, d => d
  | fuel + 1, d =>
    if compareScaled m e 1 (d + 1) != .lt then fixExponent m e fuel (d + 1)
    else if compareScaled m e 1 d == .lt then fixExponent m e fuel (d - 1)
    else d

/-- `⌊log10 (m * 2 ^ e)⌋` for `m > 0`. -/
def decimalExponent (m : Nat) (e : Int) : Int :=
  -- 78913 / 2^18 is just below log10 2, so the guess is off by at most one
  let guess := (((Nat.log2 m : Int) + e) * 78913) / 262144
  fixExponent m e 4 guess

/-- Is `c * 10 ^ k` inside the rounding interval of `m * 2 ^ e`? The interval is
`(lowNum * 2 ^ (e-2), highNum * 2 ^ (e-2))`, ends included when `inclusive`. -/
def inInterval (lowNum highNum : Nat) (e : Int) (inclusive : Bool) (c : Nat) (k : Int) : Bool :=
  let lo := compareScaled lowNum (e - 2) c k
  let hi := compareScaled highNum (e - 2) c k
  let aboveLow := lo == .lt || (inclusive && lo == .eq)
  let belowHigh := hi == .gt || (inclusive && hi == .eq)
  aboveLow && belowHigh

/-- The decimal of `n` significant digits nearest to `m * 2 ^ e` inside its rounding interval,
if there is one. `top` is the exponent of the value's leading digit. -/
def candidate (m : Nat) (e : Int) (top : Int) (n : Nat) : Option Digits :=
  let lowNum := if m = Nat.pow 2 52 ∧ minExponent < e then 4 * m - 1 else 4 * m - 2
  let highNum := 4 * m + 2
  let inclusive := m % 2 == 0
  let k := top - (n : Int) + 1
  let down := floorScaled m e k
  let up := down + 1
  let downOk := inInterval lowNum highNum e inclusive down k
  let upOk := inInterval lowNum highNum e inclusive up k
  if downOk && upOk then
    match compareScaled (8 * m) (e - 2) (2 * down + 1) k with
    | .lt => some ⟨down, k⟩
    | .gt => some ⟨up, k⟩
    | .eq => some ⟨if down % 2 = 0 then down else up, k⟩
  else if downOk then some ⟨down, k⟩
  else if upOk then some ⟨up, k⟩
  else none

/-- The shortest decimal that reads back as the positive finite value `m * 2 ^ e`, nearest
to it among the shortest, with no trailing zero digits. -/
def shortest (m : Nat) (e : Int) : Digits :=
  let top := decimalExponent m e
  let found := (List.range 17).findSome? fun i => candidate m e top (i + 1)
  let d := found.getD ⟨floorScaled m e (top - 16), top - 16⟩
  d.trim 400

end Binary64

end TradeLedger
