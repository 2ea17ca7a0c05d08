import Mathlib
import TradeLedger.Proofs.Number.ShortestDigits
/-!
# Decimals as rationals, and the floats that hold them exactly

A decimal is a coefficient times a power of ten, and a number has many such forms: a sum takes
the smaller exponent, so `0 + a` is `a` at another exponent. What the library computes depends
only on the numbers denoted. A float goes back to a decimal through its shortest digits; when
the float holds the decimal's value exactly, that lands on a decimal with the same float, on the
decimal's grid of places or a coarser one. So a quotient cut to sixteen places, stored as a
float and read back, divides again without losing a place.

## Main definitions

* `Decimal.value`: the rational a decimal denotes.

## Theorems

* `Decimal.value_add`, `Decimal.value_mul`: sums and products denote those of the values.
* `Decimal.divRound_eq`: a quotient is the exact one rounded half away from zero.
* `Decimal.toFloat_congr`: the float of a decimal depends on its value only.
* `Decimal.ofFloat_toFloat`: a float that holds a decimal exactly reads back on its grid.
-/

namespace TradeLedger
namespace Decimal

/-! ### Values -/

/-- The rational a decimal denotes. -/
def value (a : Decimal) : ℚ := a.coeff * 10 ^ a.exp

theorem cast_intPow (n : Nat) : ((Int.pow 10 n : Int) : ℚ) = 10 ^ n := by
  push_cast [show Int.pow 10 n = 10 ^ n from rfl]
  rfl

theorem value_coeffAt (a : Decimal) {e : Int} (he : e ≤ a.exp) : (a.coeffAt e : ℚ) * 10 ^ e = a.value := by
  unfold coeffAt value
  push_cast [cast_intPow]
  rw [mul_assoc, ← zpow_natCast, ← zpow_add₀ (by norm_num)]
  congr 2
  omega

@[simp] theorem value_add (a b : Decimal) : (a.add b).value = a.value + b.value := by
  show ((a.coeffAt (min a.exp b.exp) + b.coeffAt (min a.exp b.exp) : Int) : ℚ) * 10 ^ (min a.exp b.exp) = _
  rw [Int.cast_add, add_mul, value_coeffAt a (min_le_left _ _), value_coeffAt b (min_le_right _ _)]

@[simp] theorem value_mul (a b : Decimal) : (a.mul b).value = a.value * b.value := by
  show ((a.coeff * b.coeff : Int) : ℚ) * 10 ^ (a.exp + b.exp) = _
  rw [value, value, zpow_add₀ (by norm_num)]
  push_cast
  ring

@[simp] theorem value_zero : zero.value = 0 := by simp [zero, value]

@[simp] theorem value_neg (a : Decimal) : a.neg.value = -a.value := by
  simp [neg, value]

@[simp] theorem value_sub (a b : Decimal) : (a.sub b).value = a.value - b.value := by
  rw [sub, value_add, value_neg, sub_eq_add_neg]

theorem isZero_iff (a : Decimal) : a.isZero = true ↔ a.value = 0 := by
  have h : (10 : ℚ) ^ a.exp ≠ 0 := by positivity
  simp [isZero, value, h]

theorem compare_eq (a b : Decimal) : a.compare b = Ord.compare a.value b.value := by
  have hp : (0 : ℚ) < 10 ^ min a.exp b.exp := by positivity
  rw [← value_coeffAt a (min_le_left a.exp b.exp), ← value_coeffAt b (min_le_right a.exp b.exp)]
  unfold compare
  dsimp only
  generalize a.coeffAt (min a.exp b.exp) = x
  generalize b.coeffAt (min a.exp b.exp) = y
  rcases lt_trichotomy x y with h | rfl | h
  · rw [Int.compare_eq_lt.2 h, compare_lt_iff_lt.2 (mul_lt_mul_of_pos_right (Int.cast_lt.2 h) hp)]
  · rw [Int.compare_eq_eq.2 rfl, compare_eq_iff_eq.2 rfl]
  · rw [Int.compare_eq_gt.2 h, compare_gt_iff_gt.2 (mul_lt_mul_of_pos_right (Int.cast_lt.2 h) hp)]

theorem gt_iff (a b : Decimal) : a.gt b = true ↔ b.value < a.value := by
  rw [gt, beq_iff_eq, compare_eq, compare_gt_iff_gt]

theorem value_pos_iff (a : Decimal) : 0 < a.value ↔ 0 < a.coeff := by
  have h : (0 : ℚ) < 10 ^ a.exp := by positivity
  rw [value, mul_pos_iff_of_pos_right h, Int.cast_pos]

theorem value_neg_iff (a : Decimal) : a.value < 0 ↔ a.coeff < 0 := by
  have h : (0 : ℚ) < 10 ^ a.exp := by positivity
  rw [value, Rat.mul_neg_iff_of_pos_right h, Int.cast_lt_zero]

theorem isPositive_iff (a : Decimal) : a.isPositive = true ↔ 0 < a.value := by
  rw [value_pos_iff, isPositive, decide_eq_true_iff]

/-! ### Floats of decimals -/

theorem abs_value (a : Decimal) : |a.value| = (a.coeff.natAbs : ℚ) * 10 ^ a.exp := by
  rw [value, abs_mul, abs_of_pos (by positivity : (0 : ℚ) < 10 ^ a.exp), Nat.cast_natAbs, Int.cast_abs]

@[simp] theorem value_abs (a : Decimal) : a.abs.value = |a.value| := by
  rw [abs_value]
  simp [abs, value]

/-- A decimal's float is the nearest word to its magnitude, with its sign. -/
theorem toFloat_eq (a : Decimal) : ∃ num den : Nat, 0 < den ∧ (num : ℚ) / den = |a.value| ∧
    a.toFloat = Binary64.nearest (decide (a.value < 0)) num den := by
  have hsign : decide (a.coeff < 0) = decide (a.value < 0) :=
    decide_eq_decide.mpr (value_neg_iff a).symm
  unfold toFloat
  dsimp only
  rw [hsign, abs_value]
  by_cases he : 0 ≤ a.exp
  · refine ⟨a.coeff.natAbs * Nat.pow 10 a.exp.toNat, 1, Nat.one_pos, ?_, if_pos he⟩
    rw [Nat.cast_one, div_one, Nat.cast_mul, Binary64.cast_pow_ten, ← zpow_natCast,
      Int.toNat_of_nonneg he]
  · refine ⟨a.coeff.natAbs, Nat.pow 10 (-a.exp).toNat, Nat.pow_pos (by norm_num), ?_,
      if_neg he⟩
    rw [Binary64.cast_pow_ten, ← zpow_natCast, Int.toNat_of_nonneg (by omega), zpow_neg,
      div_inv_eq_mul]

/-- The float of a decimal depends on its value only. -/
theorem toFloat_congr {a b : Decimal} (h : a.value = b.value) : a.toFloat = b.toFloat := by
  obtain ⟨num, den, hden, hr, ha⟩ := toFloat_eq a
  obtain ⟨num', den', hden', hr', hb⟩ := toFloat_eq b
  rw [ha, hb, h, Binary64.nearest_congr _ hden hden' (by rw [hr, hr', h])]


/-! ### Quotients -/

/-- Round to the nearest integer, a half going away from zero. -/
def roundHalfAway (x : ℚ) : Int := if 0 ≤ x then ⌊x + 1 / 2⌋ else -⌊-x + 1 / 2⌋

/-- Rounding a ratio of naturals half up, from its quotient and remainder. -/
theorem floor_add_half {n d : Nat} (hd : 0 < d) :
    ⌊(n : ℚ) / d + 1 / 2⌋ = ((if 2 * (n % d) < d then n / d else n / d + 1 : Nat) : Int) := by
  have hdq : (0 : ℚ) < d := by exact_mod_cast hd
  have hsplit : (n : ℚ) = d * (n / d : Nat) + (n % d : Nat) := by exact_mod_cast (Nat.div_add_mod n d).symm
  have hr : n % d < d := Nat.mod_lt n hd
  generalize n / d = q at hsplit ⊢
  generalize n % d = r at hsplit hr ⊢
  have hx : (n : ℚ) / d + 1 / 2 = q + ((2 * r + d : Nat) : ℚ) / (2 * d) := by
    rw [hsplit]
    field_simp
    push_cast
    ring
  rw [Int.floor_eq_iff, hx]
  have hrq : (r : ℚ) < d := by exact_mod_cast hr
  split
  · rename_i hlt
    have hlt' : (2 * r : ℚ) < d := by exact_mod_cast hlt
    push_cast
    constructor
    · have : (0 : ℚ) ≤ (2 * r + d) / (2 * d) := by positivity
      linarith
    · rw [add_lt_add_iff_left, div_lt_one (by positivity)]
      linarith
  · rename_i hge
    have hge' : (d : ℚ) ≤ 2 * r := by exact_mod_cast (Nat.le_of_not_lt hge)
    push_cast
    constructor
    · rw [add_le_add_iff_left, one_le_div (by positivity)]
      linarith
    · rw [add_assoc, add_lt_add_iff_left, div_lt_iff₀ (by positivity)]
      linarith

/-- Rounding the truncated quotient of two integers half away from zero: a remainder of at
least half the divisor moves the quotient one step away from zero. -/
theorem round_tdiv {num den : Int} (hden : den ≠ 0) :
    (if 2 * (num.tmod den).natAbs < den.natAbs then num.tdiv den
      else if (num < 0) != (den < 0) then num.tdiv den - 1 else num.tdiv den + 1) =
    roundHalfAway ((num : ℚ) / den) := by
  obtain ⟨n, hn⟩ : ∃ n : Nat, num = n ∨ num = -n := ⟨_, Int.natAbs_eq num⟩
  obtain ⟨d, hd'⟩ : ∃ d : Nat, den = d ∨ den = -d := ⟨_, Int.natAbs_eq den⟩
  have hd : 0 < d := by omega
  rw [Int.natAbs_tmod]
  rcases Nat.eq_zero_or_pos n with rfl | hn₀
  · -- a zero numerator rounds to zero
    have hzero : roundHalfAway 0 = 0 := by norm_num [roundHalfAway, Int.floor_eq_zero_iff]
    rcases hn with rfl | rfl <;> rcases hd' with rfl | rfl <;> simp [hd, hzero]
  -- the magnitude rounds half up; the signs say which way the result points
  have hq : (0 : ℚ) < (n : ℚ) / d := by positivity
  have hpos : roundHalfAway ((n : ℚ) / d) =
      ((if 2 * (n % d) < d then n / d else n / d + 1 : Nat) : Int) := by
    rw [roundHalfAway, if_pos hq.le, floor_add_half hd]
  have hneg : roundHalfAway (-((n : ℚ) / d)) =
      -((if 2 * (n % d) < d then n / d else n / d + 1 : Nat) : Int) := by
    rw [roundHalfAway, if_neg (by linarith), neg_neg, floor_add_half hd]
  have htdiv : (n : Int).tdiv d = ((n / d : Nat) : Int) := rfl
  have hn' : decide (-(n : Int) < 0) = true := decide_eq_true (by omega)
  have hd'' : decide (-(d : Int) < 0) = true := decide_eq_true (by omega)
  have hnn : decide ((n : Int) < 0) = false := decide_eq_false (by omega)
  have hdn : decide ((d : Int) < 0) = false := decide_eq_false (by omega)
  rcases hn with rfl | rfl <;> rcases hd' with rfl | rfl <;>
    simp only [Int.natAbs_neg, Int.natAbs_natCast, Int.neg_tdiv, Int.tdiv_neg, neg_neg,
      Int.cast_neg, Int.cast_natCast, neg_div, div_neg, hpos, hneg, htdiv, hn', hd'', hnn, hdn,
      bne_self_eq_false, Bool.false_bne, Bool.bne_false, Bool.false_eq_true,
      if_false, if_true] <;>
    split <;> push_cast <;> ring


/-- The quotient of two decimals, scaled to `places` places, as a ratio of their coefficients. -/
theorem div_value_eq (a b : Decimal) (p : Nat) :
    a.value / b.value * 10 ^ p = a.coeff / b.coeff * 10 ^ (a.exp - b.exp + p) := by
  rw [value, value, zpow_add₀ (by norm_num), zpow_sub₀ (by norm_num), zpow_natCast]
  field_simp

/-- `divRound` rounds the exact quotient, scaled to `places` places, half away from zero. -/
theorem divRound_eq (a b : Decimal) (hb : b.coeff ≠ 0) (p : Nat) :
    a.divRound b p = some ⟨roundHalfAway (a.value / b.value * 10 ^ p), -(p : Int)⟩ := by
  unfold divRound
  rw [if_neg hb]
  dsimp only
  rw [div_value_eq]
  split
  · -- a nonnegative shift scales the numerator
    rename_i hs
    dsimp only
    rw [round_tdiv hb, Int.cast_mul, cast_intPow, ← zpow_natCast, Int.toNat_of_nonneg hs,
      mul_div_right_comm]
  · -- a negative shift scales the denominator
    rename_i hs
    have hpow : Int.pow 10 (-(a.exp - b.exp + p)).toNat ≠ 0 :=
      show (10 : Int) ^ _ ≠ 0 from pow_ne_zero _ (by norm_num)
    dsimp only
    rw [round_tdiv (mul_ne_zero hb hpow), Int.cast_mul, cast_intPow, ← zpow_natCast,
      Int.toNat_of_nonneg (by omega), zpow_neg, div_mul_eq_div_div, div_inv_eq_mul]

theorem abs_roundHalfAway_sub_le (x : ℚ) : |(roundHalfAway x : ℚ) - x| ≤ 1 / 2 := by
  unfold roundHalfAway
  split
  · have hle := Int.floor_le (x + 1 / 2)
    have hlt := Int.lt_floor_add_one (x + 1 / 2)
    rw [abs_le]
    constructor <;> linarith
  · have hle := Int.floor_le (-x + 1 / 2)
    have hlt := Int.lt_floor_add_one (-x + 1 / 2)
    push_cast
    rw [abs_le]
    constructor <;> linarith

theorem roundHalfAway_intCast (k : Int) : roundHalfAway k = k := by
  unfold roundHalfAway
  split
  · rw [Int.floor_intCast_add, Int.floor_eq_zero_iff.mpr (by norm_num), add_zero]
  · rw [← Int.cast_neg, Int.floor_intCast_add, Int.floor_eq_zero_iff.mpr (by norm_num), add_zero,
      neg_neg]

/-- A quotient to `divisionPlaces` places depends on the values of its operands only. -/
theorem div_eq {a b : Decimal} (hb : b.value ≠ 0) :
    a.div b = some ⟨roundHalfAway (a.value / b.value * 10 ^ divisionPlaces), -(divisionPlaces : Int)⟩ :=
  divRound_eq a b (fun h0 => hb (by simp [value, h0])) divisionPlaces

/-- Dividing `x * y` by `x` gives `y` back, when `y` has no more places than a quotient keeps. -/
theorem div_mul_cancel_value {M S y : Decimal} (hS : S.value ≠ 0) (hM : M.value = S.value * y.value)
    (hy : -(divisionPlaces : Int) ≤ y.exp) : ((M.div S).getD zero).value = y.value := by
  have hpow : (10 : ℚ) ^ (y.exp + divisionPlaces).toNat = 10 ^ y.exp * 10 ^ divisionPlaces := by
    rw [← zpow_natCast, Int.toNat_of_nonneg (by omega), zpow_add₀ (by norm_num), zpow_natCast]
  -- the scaled quotient is an integer, so rounding keeps it
  have hint : M.value / S.value * 10 ^ divisionPlaces =
      ((y.coeff * 10 ^ (y.exp + divisionPlaces).toNat : Int) : ℚ) := by
    rw [hM, mul_div_cancel_left₀ _ hS, value]
    push_cast
    rw [hpow]
    ring
  rw [div_eq hS, Option.getD_some, hint, roundHalfAway_intCast]
  show ((y.coeff * 10 ^ (y.exp + divisionPlaces).toNat : Int) : ℚ) * 10 ^ (-(divisionPlaces : Int)) =
    y.value
  rw [value]
  push_cast
  rw [hpow, zpow_neg, zpow_natCast]
  field_simp

end Decimal

namespace Binary64

/-- A finite word's significand and exponent are those of a normal or subnormal word. -/
theorem ofBits_normal {w : UInt64} {neg : Bool} {m : Nat} {e : Int} (h : ofBits w = .finite neg m e) :
    Normal m e ∧ e ≤ maxExponent := by
  have hmin : minExponent = -1074 := rfl
  have hmax : maxExponent = 971 := rfl
  unfold ofBits at h
  simp only [pow_two_52, pow_two_11, pow_two_63] at h
  split at h
  · split at h <;> cases h
  · split at h
    · cases h
      refine ⟨⟨?_, le_rfl, .inr rfl⟩, by omega⟩
      rw [pow_two_53]
      omega
    · cases h
      refine ⟨⟨?_, by omega, .inl ?_⟩, by omega⟩
      · rw [pow_two_53]
        omega
      · rw [pow_two_52]
        omega

theorem ofFloat_normal {x : Float} {neg : Bool} {m : Nat} {e : Int} (h : ofFloat x = .finite neg m e) :
    Normal m e ∧ e ≤ maxExponent :=
  ofBits_normal h

/-- The rational a word holds; none for NaN and the infinities. -/
def toRat? : Binary64 → Option ℚ
  | .finite neg m e => some ((if neg then -(m : ℚ) else m) * 2 ^ e)
  | _ => none

/-- A rational that some float holds exactly. -/
def Representable (q : ℚ) : Prop := ∃ x : Float, (ofFloat x).toRat? = some q

/-- A nonzero rational a float holds is the value of a normal or subnormal word. -/
theorem Representable.word {q : ℚ} (h : Representable q) (hq : q ≠ 0) :
    ∃ (neg : Bool) (m : Nat) (e : Int), Normal m e ∧ e ≤ maxExponent ∧ 0 < m ∧
      q = (if neg then -(m : ℚ) else m) * 2 ^ e := by
  obtain ⟨x, hx⟩ := h
  rcases hw : ofFloat x with _ | _ | ⟨neg, m, e⟩ <;> rw [hw] at hx <;> cases hx
  obtain ⟨hv, he⟩ := ofFloat_normal hw
  refine ⟨neg, m, e, hv, he, Nat.pos_of_ne_zero fun hm => hq ?_, rfl⟩
  subst hm
  simp

end Binary64

namespace Decimal

open Binary64

/-- A decimal whose magnitude is in a word's rounding interval has that word as its float, with
its own sign. -/
theorem toFloat_of_roundsTo {D : Decimal} {neg : Bool} {m : Nat} {e : Int} (hv : Normal m e)
    (he : e ≤ maxExponent) (hD : D.value ≠ 0) (hsign : D.value < 0 ↔ neg = true)
    (hr : RoundsTo m e |D.value|) : D.toFloat = assemble neg m e := by
  obtain ⟨num, den, hden, hratio, hfloat⟩ := toFloat_eq D
  have hnum : 0 < num := by
    refine Nat.pos_of_ne_zero fun h0 => hD ?_
    rw [h0, Nat.cast_zero, zero_div, eq_comm, abs_eq_zero] at hratio
    exact hratio
  have hneg : decide (D.value < 0) = neg := by
    cases neg <;> simpa using hsign
  rw [hfloat, hneg]
  unfold nearest
  rw [if_neg (by omega), if_neg (by omega)]
  dsimp only
  rw [nearestParts_of_roundsTo hnum hden hv (by rw [hratio]; exact hr)]
  dsimp only
  rw [if_neg (by omega)]

/-- A decimal that a word holds exactly has that word as its float. -/
theorem toFloat_of_value {D : Decimal} {neg : Bool} {m : Nat} {e : Int} (hv : Normal m e)
    (he : e ≤ maxExponent) (hm : 0 < m) (hD : D.value = (if neg then -(m : ℚ) else m) * 2 ^ e) :
    D.toFloat = assemble neg m e := by
  have hpos : (0 : ℚ) < m * 2 ^ e := by positivity
  have habs : |D.value| = m * 2 ^ e := by
    rw [hD]
    cases neg <;> simp [abs_of_pos hpos]
  refine toFloat_of_roundsTo hv he (fun h0 => by rw [h0, abs_zero] at habs; linarith) ?_
    (habs ▸ roundsTo_self hm)
  rw [hD]
  cases neg <;> simp [hpos, hpos.le]

/-- The decimal of a sign and digits. -/
def ofDigits (neg : Bool) (d : Digits) : Decimal := ⟨if neg then -(d.coeff : Int) else d.coeff, d.exp⟩

theorem value_ofDigits (neg : Bool) (d : Digits) :
    (ofDigits neg d).value = (if neg then -(d.coeff : ℚ) else d.coeff) * 10 ^ d.exp := by
  unfold ofDigits value
  cases neg <;> simp

/-- A nonzero word's decimal is its shortest digits with its sign. -/
theorem ofFloat_assemble {neg : Bool} {m : Nat} {e : Int} (hv : Normal m e) (he : e ≤ maxExponent)
    (hm : 0 < m) : Decimal.ofFloat (assemble neg m e) = .ok (ofDigits neg (shortest m e)) := by
  unfold Decimal.ofFloat
  rw [Binary64.ofFloat_assemble hv.lt hv.norm hv.low he]
  simp only [Nat.pos_iff_ne_zero.mp hm, if_false]
  rfl

/-- The shortest digits of a nonzero word denote a positive number. -/
theorem shortest_value_pos {m : Nat} {e : Int} (hv : Normal m e) (he : e ≤ maxExponent) (hm : 0 < m) :
    (0 : ℚ) < (shortest m e).coeff * 10 ^ (shortest m e).exp := by
  have hlow : (0 : ℚ) < lowQuarters m e * 2 ^ (e - 2) := by
    have : 0 < lowQuarters m e := by unfold lowQuarters; split <;> omega
    positivity
  exact lt_of_lt_of_le hlow (shortest_roundsTo hv hm he).left_le

theorem toFloat_ofDigits_shortest {neg : Bool} {m : Nat} {e : Int} (hv : Normal m e)
    (he : e ≤ maxExponent) (hm : 0 < m) : (ofDigits neg (shortest m e)).toFloat = assemble neg m e := by
  have hr := shortest_roundsTo hv hm he
  have hpos := shortest_value_pos hv he hm
  generalize shortest m e = d at hr hpos ⊢
  have habs : |(ofDigits neg d).value| = d.coeff * 10 ^ d.exp := by
    rw [value_ofDigits]
    cases neg <;> simp [abs_of_pos hpos]
  refine toFloat_of_roundsTo hv he (fun h0 => by rw [h0, abs_zero] at habs; linarith) ?_ (habs ▸ hr)
  rw [value_ofDigits]
  cases neg <;> simp [hpos, hpos.le]

/-- Below `10 ^ -307` every word is normal: a subnormal word is less than `2 ^ -1021`. -/
theorem subnormal_lt_ten_zpow {m : Nat} (hm : m < Nat.pow 2 53) :
    (m : ℚ) * 2 ^ minExponent < 10 ^ (-307 : Int) := by
  have hbound : (2 : ℚ) ^ (53 : Nat) * 2 ^ (-1074 : Int) < 10 ^ (-307 : Int) := by
    rw [zpow_neg, zpow_neg, ← div_eq_mul_inv, div_lt_iff₀ (by positivity), inv_mul_eq_div,
      lt_div_iff₀ (by positivity)]
    have h : (2 ^ 53 * 10 ^ 307 : Nat) < 2 ^ 1074 := by decide +kernel
    exact_mod_cast h
  have hm' : (m : ℚ) < 2 ^ (53 : Nat) := by
    rw [← cast_pow_two]
    exact_mod_cast hm
  calc (m : ℚ) * 2 ^ minExponent < 2 ^ (53 : Nat) * 2 ^ (-1074 : Int) :=
        mul_lt_mul_of_pos_right hm' (by positivity)
    _ < 10 ^ (-307 : Int) := hbound

/-- A nonzero decimal that a float holds exactly comes back from its float's shortest digits:
the digits read back as the same float, with the same sign, and on the decimal's own grid or a
coarser one. -/
theorem ofFloat_toFloat {D : Decimal} (hrep : Representable D.value) (hne : D.value ≠ 0) :
    ∃ D', Decimal.ofFloat D.toFloat = .ok D' ∧ D'.toFloat = D.toFloat ∧
      (0 < D'.value ↔ 0 < D.value) ∧ (-307 ≤ D.exp → D.exp ≤ D'.exp) := by
  obtain ⟨neg, m, e, hv, he, hm, hD⟩ := hrep.word hne
  have hfloat := toFloat_of_value hv he hm hD
  have hpos : (0 : ℚ) < m * 2 ^ e := by positivity
  refine ⟨ofDigits neg (shortest m e), by rw [hfloat]; exact ofFloat_assemble hv he hm,
    by rw [hfloat]; exact toFloat_ofDigits_shortest hv he hm, ?_, fun hK => ?_⟩
  · -- both carry the word's sign
    have hd := shortest_value_pos hv he hm
    rw [value_ofDigits, hD]
    cases neg
    · simp [hd, hpos]
    · simp only [if_true, neg_mul]
      constructor <;> intro h <;> linarith
  · -- the decimal's own grid meets the rounding interval, so the search stops there or before
    have hj : 0 < D.coeff.natAbs := Int.natAbs_pos.mpr fun h0 => hne (by simp [value, h0])
    have hK' : RoundsTo m e ((D.coeff.natAbs : ℚ) * 10 ^ D.exp) := by
      rw [← abs_value, hD]
      cases neg <;> simpa [abs_of_pos hpos] using roundsTo_self (e := e) hm
    have h52 : Nat.pow 2 52 ≤ m := by
      refine hv.norm.resolve_right fun hmin => ?_
      have hlow : (10 : ℚ) ^ (-307 : Int) ≤ m * 2 ^ e := by
        calc (10 : ℚ) ^ (-307 : Int) ≤ 10 ^ D.exp := zpow_le_zpow_right₀ (by norm_num) hK
          _ ≤ (D.coeff.natAbs : ℚ) * 10 ^ D.exp :=
            le_mul_of_one_le_left (by positivity) (by exact_mod_cast hj)
          _ = m * 2 ^ e := by rw [← abs_value, hD]; cases neg <;> simp [abs_of_pos hpos]
      rw [hmin] at hlow
      exact absurd (subnormal_lt_ten_zpow hv.lt) (not_lt.mpr hlow)
    exact le_exp_shortest hv h52 he hj hK'

theorem value_pos_of_ofFloat {x : Float} {d : Decimal} (hx : 0 < x) (h : Decimal.ofFloat x = .ok d) :
    0 < d.value := by
  have hfin : x.isFinite = true := by rw [← Decimal.ofFloat_isOk, h]; rfl
  obtain ⟨m, e, hm, hw⟩ := Binary64.ofFloat_of_pos hx hfin
  obtain ⟨hv, he⟩ := ofFloat_normal hw
  unfold Decimal.ofFloat at h
  rw [hw] at h
  simp only [Nat.pos_iff_ne_zero.mp hm, if_false, Except.ok.injEq] at h
  subst h
  simpa [value] using shortest_value_pos hv he hm

end Decimal

end TradeLedger