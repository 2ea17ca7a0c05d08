import Mathlib
import TradeLedger.Proofs.Number.Words
/-!
# Rounding a ratio to the nearest word

`Binary64.nearestParts` rounds a positive ratio of natural numbers to a significand and an
exponent: it guesses the binary logarithm from the bit lengths and corrects it by one
comparison, scales the ratio to a 53-bit significand, and rounds half to even, carrying into
the next binade at `2 ^ 53`. Every finite word owns an interval between the half-way points to
its neighbours, ends included when its significand is even; at the bottom of a binade it reaches
only a quarter of a unit down.

## Main definitions

* `Binary64.RoundsTo`: a ratio lies in the rounding interval of a significand and exponent.

## Theorems

* `Binary64.roundHalfEven_eq_iff`: rounding half to even, as an interval.
* `Binary64.nearestParts_eq_iff`: the parts returned are exactly those whose interval holds
  the ratio.
* `Binary64.nearest_congr`: the rounded parts depend on the ratio alone.
-/

namespace TradeLedger
namespace Binary64

/-! ### Intervals -/

/-- `x` lies between `lo` and `hi`, the ends included when `closed`. -/
def Between (lo hi : ℚ) (closed : Bool) (x : ℚ) : Prop :=
  (lo < x ∨ closed = true ∧ lo = x) ∧ (x < hi ∨ closed = true ∧ x = hi)

namespace Between

variable {lo hi x y z : ℚ} {closed : Bool}

theorem left_le (h : Between lo hi closed x) : lo ≤ x := by
  rcases h.1 with h | ⟨-, h⟩
  · exact h.le
  · exact h.le

theorem le_right (h : Between lo hi closed x) : x ≤ hi := by
  rcases h.2 with h | ⟨-, h⟩
  · exact h.le
  · exact h.le

theorem of_le_of_le (hx : Between lo hi closed x) (hy : Between lo hi closed y) (hxz : x ≤ z)
    (hzy : z ≤ y) : Between lo hi closed z := by
  constructor
  · rcases hx.1 with h | ⟨hc, h⟩
    · exact .inl (lt_of_lt_of_le h hxz)
    · rcases hxz.lt_or_eq with h' | h'
      · exact .inl (h ▸ h')
      · exact .inr ⟨hc, h.trans h'⟩
  · rcases hy.2 with h | ⟨hc, h⟩
    · exact .inl (lt_of_le_of_lt hzy h)
    · rcases hzy.lt_or_eq with h' | h'
      · exact .inl (h ▸ h')
      · exact .inr ⟨hc, h'.trans h⟩

/-- A point above a lower end is between that end and the upper one. -/
theorem of_lt_left {lo' : ℚ} (h : Between lo hi closed x) (h' : lo' < x) :
    Between lo' hi closed x :=
  ⟨.inl h', h.2⟩

/-- A closed interval holds exactly the points between its ends. -/
theorem closed_iff : Between lo hi true x ↔ lo ≤ x ∧ x ≤ hi := by
  simp only [Between, true_and, le_iff_lt_or_eq]

theorem mul_iff {s : ℚ} (hs : 0 < s) :
    Between (lo * s) (hi * s) closed (x * s) ↔ Between lo hi closed x := by
  unfold Between
  rw [mul_lt_mul_iff_left₀ hs, mul_lt_mul_iff_left₀ hs, mul_left_inj' hs.ne', mul_left_inj' hs.ne']

end Between

/-! ### Rounding a ratio to an integer -/

/-- Within a half of `q`, in natural numbers: twice the numerator against `2 q ± 1` times the
denominator. -/
theorem between_half_iff {n d q : Nat} {closed : Bool} (hd : 0 < d) :
    Between ((q : ℚ) - 1 / 2) ((q : ℚ) + 1 / 2) closed ((n : ℚ) / d) ↔
      (2 * q * d < 2 * n + d ∨ closed = true ∧ 2 * q * d = 2 * n + d) ∧
        (2 * n < 2 * q * d + d ∨ closed = true ∧ 2 * n = 2 * q * d + d) := by
  have hd' : (0 : ℚ) < 2 * d := by positivity
  rw [← Between.mul_iff hd']
  have hx : (n : ℚ) / d * (2 * d) = ((2 * n : Nat) : ℚ) := by
    push_cast
    field_simp
  have hlo : ((q : ℚ) - 1 / 2) * (2 * d) + d = ((2 * q * d : Nat) : ℚ) := by
    push_cast
    ring
  have hhi : ((q : ℚ) + 1 / 2) * (2 * d) = ((2 * q * d + d : Nat) : ℚ) := by
    push_cast
    ring
  unfold Between
  rw [hx, hhi, ← add_lt_add_iff_right (d : ℚ), ← add_left_inj (d : ℚ), hlo]
  norm_cast

/-- `roundHalfEven` is within a half of the ratio, and a half away only when it is even. -/
theorem between_roundHalfEven {n d : Nat} (hd : 0 < d) :
    Between ((roundHalfEven n d : ℚ) - 1 / 2) ((roundHalfEven n d : ℚ) + 1 / 2)
      (roundHalfEven n d % 2 == 0) ((n : ℚ) / d) := by
  rw [between_half_iff hd]
  have hdiv := Nat.div_add_mod n d
  have hmod := Nat.mod_lt n hd
  unfold roundHalfEven
  dsimp only
  -- the quotient and one more, with the remainder deciding
  split
  · rename_i hup
    rw [Nat.mul_assoc 2 (n / d + 1) d, Nat.add_mul, Nat.mul_comm (n / d) d]
    simp only [beq_iff_eq]
    omega
  · rename_i hstay
    rw [Nat.mul_assoc 2 (n / d) d, Nat.mul_comm (n / d) d]
    simp only [beq_iff_eq]
    omega

/-- Two integers that a number is within a half of, a half away only from an even one, are
the same. -/
theorem eq_of_between_half {q q' : Nat} {x : ℚ}
    (h : Between ((q : ℚ) - 1 / 2) ((q : ℚ) + 1 / 2) (q % 2 == 0) x)
    (h' : Between ((q' : ℚ) - 1 / 2) ((q' : ℚ) + 1 / 2) (q' % 2 == 0) x) : q = q' := by
  have h1 := h.left_le
  have h2 := h.le_right
  have h3 := h'.left_le
  have h4 := h'.le_right
  have hle : q ≤ q' + 1 := by exact_mod_cast (show (q : ℚ) ≤ q' + 1 by linarith)
  have hge : q' ≤ q + 1 := by exact_mod_cast (show (q' : ℚ) ≤ q + 1 by linarith)
  -- neighbours share only a midpoint, and at most one of them is even
  rcases (show q = q' ∨ q' = q + 1 ∨ q = q' + 1 by omega) with h0 | h0 | h0
  · exact h0
  · subst h0
    push_cast at h'
    rcases h.2 with hlt | ⟨hc, -⟩
    · exact absurd (hlt.trans_le' h3) (by push_cast; linarith)
    rcases h'.1 with hlt | ⟨hc', -⟩
    · exact absurd (hlt.trans_le h2) (by linarith)
    simp only [beq_iff_eq] at hc hc'
    omega
  · subst h0
    push_cast at h
    rcases h'.2 with hlt | ⟨hc, -⟩
    · exact absurd (hlt.trans_le' h1) (by push_cast; linarith)
    rcases h.1 with hlt | ⟨hc', -⟩
    · exact absurd (hlt.trans_le h4) (by linarith)
    simp only [beq_iff_eq] at hc hc'
    omega

theorem roundHalfEven_eq_iff {n d q : Nat} (hd : 0 < d) :
    roundHalfEven n d = q ↔
      Between ((q : ℚ) - 1 / 2) ((q : ℚ) + 1 / 2) (q % 2 == 0) ((n : ℚ) / d) := by
  constructor
  · rintro rfl
    exact between_roundHalfEven hd
  · exact fun h => eq_of_between_half (between_roundHalfEven hd) h

/-! ### The binary logarithm of a ratio -/

theorem cast_pow_two (k : Nat) : ((Nat.pow 2 k : Nat) : ℚ) = (2 : ℚ) ^ k := by
  rw [Nat.pow_eq, Nat.cast_pow, Nat.cast_ofNat]

/-- `atLeastPow2` compares the ratio with a power of two of either sign. -/
theorem atLeastPow2_iff {num den : Nat} (hden : 0 < den) (k : Int) :
    atLeastPow2 num den k = true ↔ (2 : ℚ) ^ k ≤ (num : ℚ) / den := by
  have hd : (0 : ℚ) < den := by exact_mod_cast hden
  unfold atLeastPow2
  split
  · rename_i hk
    obtain ⟨j, rfl⟩ := Int.eq_ofNat_of_zero_le hk
    rw [decide_eq_true_iff, zpow_natCast, Int.toNat_natCast, le_div_iff₀ hd, mul_comm,
      ← cast_pow_two, ← Nat.cast_mul, Nat.cast_le]
  · rename_i hk
    obtain ⟨j, hj⟩ : ∃ j : Nat, k = -(j : Int) := ⟨(-k).toNat, by omega⟩
    subst hj
    rw [decide_eq_true_iff, zpow_neg, zpow_natCast, neg_neg, Int.toNat_natCast,
      inv_le_iff_one_le_mul₀ (by positivity), div_eq_mul_inv, mul_right_comm, ← div_eq_mul_inv,
      one_le_div hd, ← cast_pow_two, ← Nat.cast_mul, Nat.cast_le]

/-- The binary logarithm of a positive ratio, bracketed by two powers of two. -/
theorem two_zpow_bounds {num den : Nat} (hnum : 0 < num) (hden : 0 < den) :
    (2 : ℚ) ^ ((Nat.log2 num : Int) - Nat.log2 den - 1) < (num : ℚ) / den ∧
      (num : ℚ) / den < 2 ^ ((Nat.log2 num : Int) - Nat.log2 den + 1) := by
  have ha₁ : (2 : ℚ) ^ Nat.log2 num ≤ num := by exact_mod_cast Nat.log2_self_le (by omega)
  have ha₂ : (num : ℚ) < 2 ^ (Nat.log2 num + 1) := by exact_mod_cast Nat.lt_log2_self
  have hb₁ : (2 : ℚ) ^ Nat.log2 den ≤ den := by exact_mod_cast Nat.log2_self_le (by omega)
  have hb₂ : (den : ℚ) < 2 ^ (Nat.log2 den + 1) := by exact_mod_cast Nat.lt_log2_self
  have hd : (0 : ℚ) < den := by exact_mod_cast hden
  have h2 : (2 : ℚ) ≠ 0 := two_ne_zero
  constructor
  · -- num ≥ 2^a and den < 2^(b+1)
    rw [lt_div_iff₀ hd]
    calc (2 : ℚ) ^ ((Nat.log2 num : Int) - Nat.log2 den - 1) * den
        < 2 ^ ((Nat.log2 num : Int) - Nat.log2 den - 1) * 2 ^ (Nat.log2 den + 1) := by
          gcongr
      _ = 2 ^ Nat.log2 num := by
          rw [← zpow_natCast, ← zpow_natCast, ← zpow_add₀ h2]
          congr 1
          push_cast
          ring
      _ ≤ num := ha₁
  · -- num < 2^(a+1) and den ≥ 2^b
    rw [div_lt_iff₀ hd]
    calc (num : ℚ) < 2 ^ (Nat.log2 num + 1) := ha₂
      _ = 2 ^ ((Nat.log2 num : Int) - Nat.log2 den + 1) * 2 ^ Nat.log2 den := by
          rw [← zpow_natCast, ← zpow_natCast, ← zpow_add₀ h2]
          congr 1
          push_cast
          ring
      _ ≤ 2 ^ ((Nat.log2 num : Int) - Nat.log2 den + 1) * den := by gcongr

/-- The exponent of the lowest bit of the word nearest to a positive ratio is 52 below the
ratio's binary logarithm, or the lowest exponent of a subnormal. -/
theorem lsbExponent_spec {num den : Nat} (hnum : 0 < num) (hden : 0 < den) :
    ∃ t : Int, (2 : ℚ) ^ t ≤ (num : ℚ) / den ∧ (num : ℚ) / den < 2 ^ (t + 1) ∧
      lsbExponent num den = max (t - 52) minExponent := by
  obtain ⟨hlow, hhigh⟩ := two_zpow_bounds hnum hden
  unfold lsbExponent
  dsimp only
  by_cases hg : atLeastPow2 num den ((Nat.log2 num : Int) - Nat.log2 den) = true
  · refine ⟨(Nat.log2 num : Int) - Nat.log2 den, (atLeastPow2_iff hden _).mp hg, hhigh, ?_⟩
    rw [if_pos hg]
  · -- the guess overshoots by one
    refine ⟨(Nat.log2 num : Int) - Nat.log2 den - 1, hlow.le, ?_, ?_⟩
    · rw [sub_add_cancel]
      exact lt_of_not_ge fun h => hg ((atLeastPow2_iff hden _).mpr h)
    · rw [if_neg hg]


theorem zpow_two_lt_iff {a b : Int} : (2 : ℚ) ^ a < 2 ^ b ↔ a < b :=
  zpow_lt_zpow_iff_right₀ (by norm_num)

/-- The exponent of a power of two at or below a number is below that of one above it. -/
theorem lt_of_zpow_le_lt {a b : Int} {r : ℚ} (h₁ : (2 : ℚ) ^ a ≤ r) (h₂ : r < 2 ^ b) : a < b :=
  zpow_two_lt_iff.mp (lt_of_le_of_lt h₁ h₂)

theorem scaleDown_ratio (num den : Nat) (e : Int) (hden : 0 < den) :
    0 < (scaleDown num den e).2 ∧
      ((scaleDown num den e).1 : ℚ) / (scaleDown num den e).2 = (num : ℚ) / den / 2 ^ e := by
  unfold scaleDown
  split
  · rename_i he
    obtain ⟨k, rfl⟩ := Int.eq_ofNat_of_zero_le he
    refine ⟨Nat.mul_pos hden (by rw [Nat.pow_eq]; positivity), ?_⟩
    rw [Nat.cast_mul, cast_pow_two, Int.toNat_natCast, zpow_natCast, div_div]
  · rename_i he
    obtain ⟨k, hk⟩ : ∃ k : Nat, e = -(k : Int) := ⟨(-e).toNat, by omega⟩
    subst hk
    refine ⟨hden, ?_⟩
    rw [Nat.cast_mul, cast_pow_two, neg_neg, Int.toNat_natCast, zpow_neg, zpow_natCast, div_inv_eq_mul,
      mul_div_right_comm]

/-! ### Rounding intervals -/

/-- A significand and exponent that a finite word carries: the significand below `2 ^ 53`,
and at least `2 ^ 52` unless the exponent is the subnormal one. Zero is `(0, minExponent)`. -/
structure Normal (m : Nat) (e : Int) : Prop where
  lt : m < Nat.pow 2 53
  low : minExponent ≤ e
  norm : Nat.pow 2 52 ≤ m ∨ e = minExponent

/-- The low end of the rounding interval of `m * 2 ^ e`, in quarters of `2 ^ e`: half a unit
below, or a quarter at the bottom of a binade, where the word below is half as far. -/
def lowQuarters (m : Nat) (e : Int) : Nat :=
  if m = Nat.pow 2 52 ∧ minExponent < e then 4 * m - 1 else 4 * m - 2

/-- `r` rounds to `m * 2 ^ e`: it lies between the half-way points to the neighbouring words,
which belong to it when `m` is even. -/
def RoundsTo (m : Nat) (e : Int) (r : ℚ) : Prop :=
  Between ((lowQuarters m e : ℚ) * 2 ^ (e - 2)) (((4 * m + 2 : Nat) : ℚ) * 2 ^ (e - 2))
    (m % 2 == 0) r

theorem roundsTo_iff {m : Nat} {e : Int} {r : ℚ} :
    RoundsTo m e r ↔ Between ((lowQuarters m e : ℚ) / 4) (((4 * m + 2 : Nat) : ℚ) / 4)
      (m % 2 == 0) (r / 2 ^ e) := by
  have hs : (0 : ℚ) < 2 ^ e := by positivity
  have hq : ∀ a : ℚ, a * 2 ^ (e - 2) = a / 4 * 2 ^ e := fun a => by
    rw [zpow_sub₀ two_ne_zero]
    field_simp
    norm_num
  rw [← Between.mul_iff hs, div_mul_cancel₀ r hs.ne', RoundsTo, hq, hq]

theorem lowQuarters_div_four {m : Nat} {e : Int} (hm : 0 < m)
    (h : ¬(m = Nat.pow 2 52 ∧ minExponent < e)) : (lowQuarters m e : ℚ) / 4 = m - 1 / 2 := by
  rw [lowQuarters, if_neg h, Nat.cast_sub (by omega)]
  push_cast
  ring

theorem lowQuarters_bottom {e : Int} (he : minExponent < e) :
    (lowQuarters (Nat.pow 2 52) e : ℚ) / 4 = 4503599627370496 - 1 / 4 := by
  rw [lowQuarters, if_pos ⟨rfl, he⟩, pow_two_52]
  norm_num

theorem highQuarters_div_four (m : Nat) : (((4 * m + 2 : Nat) : ℚ) / 4) = m + 1 / 2 := by
  push_cast
  ring

theorem two_zpow_add (e : Int) (k : Nat) : (2 : ℚ) ^ (e + k) = 2 ^ e * 2 ^ k := by
  rw [zpow_add₀ two_ne_zero, zpow_natCast]

/-- The ratio the rounding step sees: `num / den` scaled down by `2 ^ e`, rounded half to even. -/
theorem roundHalfEven_scaleDown {num den q : Nat} {e : Int} (hden : 0 < den)
    (h : Between ((q : ℚ) - 1 / 2) ((q : ℚ) + 1 / 2) (q % 2 == 0) ((num : ℚ) / den / 2 ^ e)) :
    roundHalfEven (scaleDown num den e).1 (scaleDown num den e).2 = q := by
  obtain ⟨hd, hx⟩ := scaleDown_ratio num den e hden
  exact (roundHalfEven_eq_iff hd).mpr (by rw [hx]; exact h)

/-- Against `x * 2 ^ e`, the power `2 ^ (e + k)` compares as `2 ^ k` does with `x`. -/
theorem two_zpow_add_le_iff {e : Int} {k : Nat} {x : ℚ} :
    (2 : ℚ) ^ (e + k) ≤ x * 2 ^ e ↔ (2 : ℚ) ^ k ≤ x := by
  rw [two_zpow_add, mul_comm ((2 : ℚ) ^ e)]
  exact mul_le_mul_iff_left₀ (by positivity)

theorem lt_two_zpow_add_iff {e : Int} {k : Nat} {x : ℚ} :
    x * 2 ^ e < (2 : ℚ) ^ (e + k) ↔ x < (2 : ℚ) ^ k := by
  rw [two_zpow_add, mul_comm ((2 : ℚ) ^ e)]
  exact mul_lt_mul_iff_left₀ (by positivity)

/-- The binade of `x * 2 ^ e` is that of `x`, moved up by `e`. -/
theorem binade_of_units {t e : Int} {k : Nat} {x : ℚ} (ht₁ : (2 : ℚ) ^ t ≤ x * 2 ^ e)
    (ht₂ : x * 2 ^ e < 2 ^ (t + 1)) (hx₁ : (2 : ℚ) ^ k ≤ x) (hx₂ : x < 2 ^ (k + 1)) :
    t = e + k := by
  have h₁ := lt_of_zpow_le_lt ht₁ (lt_two_zpow_add_iff.2 hx₂)
  have h₂ := lt_of_zpow_le_lt (two_zpow_add_le_iff.2 hx₁) ht₂
  push_cast at h₁
  omega

/-- The low end of a rounding interval in units of `2 ^ e`: half a unit below a positive
significand, zero at zero, and a quarter below the bottom of a binade above the subnormals. -/
theorem lowQuarters_cases (m : Nat) (e : Int) :
    (0 < m ∧ ¬(m = Nat.pow 2 52 ∧ minExponent < e) ∧ (lowQuarters m e : ℚ) / 4 = m - 1 / 2) ∨
      (m = 0 ∧ (lowQuarters m e : ℚ) / 4 = 0) ∨
      (m = Nat.pow 2 52 ∧ minExponent < e ∧ (lowQuarters m e : ℚ) / 4 = m - 1 / 4) := by
  by_cases hb : m = Nat.pow 2 52 ∧ minExponent < e
  · obtain ⟨rfl, he⟩ := hb
    refine .inr (.inr ⟨rfl, he, ?_⟩)
    rw [lowQuarters_bottom he, pow_two_52]
    norm_num
  · rcases Nat.eq_zero_or_pos m with rfl | hm
    · exact .inr (.inl ⟨rfl, by simp [lowQuarters]⟩)
    · exact .inl ⟨hm, hb, lowQuarters_div_four hm hb⟩

/-- In units of its lowest bit, a positive ratio is below `2 ^ 53`, and at least `2 ^ 52` unless
that bit is the subnormals'. -/
theorem lsbExponent_bounds {num den : Nat} (hnum : 0 < num) (hden : 0 < den) :
    minExponent ≤ lsbExponent num den ∧
      (num : ℚ) / den / 2 ^ lsbExponent num den < 9007199254740992 ∧
      (lsbExponent num den ≠ minExponent →
        4503599627370496 ≤ (num : ℚ) / den / 2 ^ lsbExponent num den) := by
  obtain ⟨t, ht₁, ht₂, hlsb⟩ := lsbExponent_spec hnum hden
  generalize lsbExponent num den = e at hlsb ⊢
  have h2e : (0 : ℚ) < 2 ^ e := by positivity
  rw [← div_mul_cancel₀ ((num : ℚ) / den) h2e.ne'] at ht₁ ht₂
  generalize (num : ℚ) / den / 2 ^ e = x at ht₁ ht₂ ⊢
  refine ⟨by omega, ?_, fun hne => ?_⟩
  · have h := lt_two_zpow_add_iff.1 (lt_of_lt_of_le ht₂
      (zpow_le_zpow_right₀ (by norm_num) (show t + 1 ≤ e + (53 : Nat) by push_cast; omega)))
    norm_num at h
    exact h
  · have ht : t = e + (52 : Nat) := by push_cast; omega
    have h := two_zpow_add_le_iff.1 (ht ▸ ht₁)
    norm_num at h
    exact h

/-- A ratio within half a unit of a word's significand, in units of `2 ^ e`, has its lowest bit
at `2 ^ e`, unless it lies under the bottom of a binade, in the binade below. -/
theorem lsbExponent_of_near {num den m : Nat} {e : Int} (hnum : 0 < num) (hden : 0 < den)
    (hv : Normal m e) (hlo : (m : ℚ) - 1 / 2 ≤ (num : ℚ) / den / 2 ^ e)
    (hhi : (num : ℚ) / den / 2 ^ e ≤ m + 1 / 2)
    (hbot : ¬(m = Nat.pow 2 52 ∧ minExponent < e ∧ (num : ℚ) / den / 2 ^ e < 4503599627370496)) :
    lsbExponent num den = e := by
  obtain ⟨t, ht₁, ht₂, hlsb⟩ := lsbExponent_spec hnum hden
  have hmin : minExponent = -1074 := rfl
  have hm53 : (m : ℚ) ≤ 9007199254740991 := by
    have := hv.lt
    rw [pow_two_53] at this
    exact_mod_cast (show m ≤ 9007199254740991 by omega)
  have h2e : (0 : ℚ) < 2 ^ e := by positivity
  rw [← div_mul_cancel₀ ((num : ℚ) / den) h2e.ne'] at ht₁ ht₂
  generalize (num : ℚ) / den / 2 ^ e = x at ht₁ ht₂ hlo hhi hbot
  rw [hlsb]
  by_cases hbig : 4503599627370496 ≤ x
  · -- the ratio is in the binade of `2 ^ (e + 52)`
    have ht : t = e + (52 : Nat) :=
      binade_of_units ht₁ ht₂ (by norm_num; exact hbig) (by norm_num; linarith)
    have := hv.low
    omega
  · -- below it the word is subnormal, so the exponent is the smallest
    have he : e = minExponent := by
      rcases hv.norm with h | h
      · -- a significand above the bottom of its binade puts the ratio above `2 ^ 52`
        by_contra hne
        have hm : m ≠ Nat.pow 2 52 := fun hm =>
          hbot ⟨hm, lt_of_le_of_ne hv.low (Ne.symm hne), lt_of_not_ge hbig⟩
        have : (4503599627370497 : ℚ) ≤ m := by
          rw [pow_two_52] at h hm
          exact_mod_cast (show 4503599627370497 ≤ m by omega)
        linarith
      · exact h
    have := lt_of_zpow_le_lt ht₁
      (lt_two_zpow_add_iff.2 (show x < (2 : ℚ) ^ 52 by norm_num; exact lt_of_not_ge hbig))
    push_cast at this
    omega

/-- A ratio in the rounding interval of a word's significand and exponent rounds to them. -/
theorem nearestParts_of_roundsTo {num den m : Nat} {e : Int} (hnum : 0 < num) (hden : 0 < den)
    (hv : Normal m e) (hr : RoundsTo m e ((num : ℚ) / den)) : nearestParts num den = (m, e) := by
  have h2e : (0 : ℚ) < 2 ^ e := by positivity
  rw [roundsTo_iff, highQuarters_div_four] at hr
  unfold nearestParts
  by_cases hbot : m = Nat.pow 2 52 ∧ minExponent < e ∧ (num : ℚ) / den / 2 ^ e < 4503599627370496
  · -- just below a power of two: the ratio is in the binade below, and rounds up to its top
    obtain ⟨rfl, he, hlt⟩ := hbot
    obtain ⟨t, ht₁, ht₂, hlsb⟩ := lsbExponent_spec hnum hden
    rw [lowQuarters_bottom he, show (Nat.pow 2 52 % 2 == 0) = true by decide,
      Between.closed_iff] at hr
    rw [← div_mul_cancel₀ ((num : ℚ) / den) h2e.ne'] at ht₁ ht₂
    have ht : t = e + (51 : Nat) :=
      binade_of_units ht₁ ht₂ (by norm_num; linarith [hr.1]) (by norm_num; exact hlt)
    have he0 : lsbExponent num den = e - 1 := by
      rw [hlsb, ht]
      have hmin : minExponent = -1074 := rfl
      omega
    rw [he0]
    dsimp only
    rw [roundHalfEven_scaleDown hden (q := Nat.pow 2 53), if_pos rfl, sub_add_cancel]
    -- twice the ratio in units of `2 ^ e` is within a half of `2 ^ 53`, from below
    have h2x : (num : ℚ) / den / 2 ^ (e - 1) = 2 * ((num : ℚ) / den / 2 ^ e) := by
      rw [zpow_sub_one₀ two_ne_zero]
      field_simp
    rw [h2x, show (Nat.pow 2 53 % 2 == 0) = true by decide, Between.closed_iff, pow_two_53]
    push_cast
    constructor <;> linarith [hr.1]
  · -- otherwise the ratio is within a half of `m` in units of `2 ^ e`, and the exponent is `e`
    have hhalf : Between ((m : ℚ) - 1 / 2) ((m : ℚ) + 1 / 2) (m % 2 == 0)
        ((num : ℚ) / den / 2 ^ e) := by
      rcases lowQuarters_cases m e with ⟨-, -, h⟩ | ⟨rfl, h⟩ | ⟨-, -, h⟩ <;> rw [h] at hr
      · exact hr
      · exact hr.of_lt_left (by push_cast; linarith [hr.left_le])
      · exact hr.of_lt_left (by linarith [hr.left_le])
    rw [lsbExponent_of_near hnum hden hv hhalf.left_le hhalf.le_right hbot]
    dsimp only
    rw [roundHalfEven_scaleDown hden hhalf, if_neg (by have := hv.lt; omega)]

/-- What `nearestParts` returns is a word's significand and exponent, before the overflow check,
and the ratio lies in the rounding interval of that word. -/
theorem roundsTo_nearestParts {num den : Nat} (hnum : 0 < num) (hden : 0 < den) :
    Normal (nearestParts num den).1 (nearestParts num den).2 ∧
      RoundsTo (nearestParts num den).1 (nearestParts num den).2 ((num : ℚ) / den) := by
  obtain ⟨hlow, hxhi, hxlo⟩ := lsbExponent_bounds hnum hden
  unfold nearestParts
  generalize lsbExponent num den = e0 at hlow hxhi hxlo ⊢
  obtain ⟨hd, hxd⟩ := scaleDown_ratio num den e0 hden
  rcases hs : scaleDown num den e0 with ⟨n, d⟩
  rw [hs] at hd hxd
  dsimp only at hd hxd ⊢
  rw [hs]
  -- the ratio in units of `2 ^ e0`, and the significand it rounds to
  generalize hx : (num : ℚ) / den / 2 ^ e0 = x at hxd hxhi hxlo
  have hxpos : 0 < x := by rw [← hx]; positivity
  have hround := between_roundHalfEven (n := n) hd
  rw [hxd] at hround
  generalize roundHalfEven n d = q at hround ⊢
  have hq53 : q ≤ 9007199254740992 := by
    have : (q : ℚ) < 9007199254740993 := by linarith [hround.left_le]
    have : q < 9007199254740993 := by exact_mod_cast this
    omega
  have hq52 : e0 ≠ minExponent → 4503599627370496 ≤ q := fun hne => by
    have : (4503599627370495 : ℚ) < q := by linarith [hxlo hne, hround.le_right]
    have : 4503599627370495 < q := by exact_mod_cast this
    omega
  split
  · -- rounded up to `2 ^ 53`: the word is the bottom of the next binade
    rename_i h53
    rw [pow_two_53] at h53
    subst h53
    have he : minExponent < e0 + 1 := by omega
    refine ⟨⟨show Nat.pow 2 52 < Nat.pow 2 53 by decide, he.le, .inl le_rfl⟩, ?_⟩
    have hhalf : (num : ℚ) / den / 2 ^ (e0 + 1) = x / 2 := by
      rw [← hx, zpow_add_one₀ two_ne_zero]
      field_simp
    rw [roundsTo_iff, lowQuarters_bottom he, highQuarters_div_four, hhalf,
      show (Nat.pow 2 52 % 2 == 0) = true by decide, Between.closed_iff, pow_two_52]
    rw [show (9007199254740992 % 2 == 0) = true by decide, Between.closed_iff] at hround
    push_cast at hround ⊢
    constructor <;> linarith [hround.1]
  · rename_i h53
    rw [pow_two_53] at h53
    refine ⟨⟨by rw [pow_two_53]; omega, hlow, ?_⟩, ?_⟩
    · by_cases hne : e0 = minExponent
      · exact .inr hne
      · exact .inl (by rw [pow_two_52]; exact hq52 hne)
    rw [roundsTo_iff, highQuarters_div_four, hx]
    -- the lower end is half a unit down, or lower still at zero and at the bottom of a binade
    rcases lowQuarters_cases q e0 with ⟨-, -, h⟩ | ⟨rfl, h⟩ | ⟨rfl, he, h⟩ <;> rw [h]
    · exact hround
    · exact hround.of_lt_left hxpos
    · refine hround.of_lt_left ?_
      rw [pow_two_52]
      push_cast
      linarith [hxlo (by omega)]

theorem nearestParts_eq_iff {num den m : Nat} {e : Int} (hnum : 0 < num) (hden : 0 < den)
    (hv : Normal m e) : nearestParts num den = (m, e) ↔ RoundsTo m e ((num : ℚ) / den) := by
  constructor
  · intro h
    have := (roundsTo_nearestParts hnum hden).2
    rwa [h] at this
  · exact nearestParts_of_roundsTo hnum hden hv

theorem nearestParts_congr {num den num' den' : Nat} (hnum : 0 < num) (hden : 0 < den)
    (hnum' : 0 < num') (hden' : 0 < den') (h : (num : ℚ) / den = (num' : ℚ) / den') :
    nearestParts num den = nearestParts num' den' := by
  obtain ⟨hv, hr⟩ := roundsTo_nearestParts hnum hden
  rw [h] at hr
  exact (nearestParts_of_roundsTo hnum' hden' hv hr).symm

/-- The nearest float to a nonnegative ratio depends only on the ratio. -/
theorem nearest_congr (neg : Bool) {num den num' den' : Nat} (hden : 0 < den) (hden' : 0 < den')
    (h : (num : ℚ) / den = (num' : ℚ) / den') : nearest neg num den = nearest neg num' den' := by
  have hd : (den : ℚ) ≠ 0 := by exact_mod_cast hden.ne'
  have hd' : (den' : ℚ) ≠ 0 := by exact_mod_cast hden'.ne'
  have hzero : num = 0 ↔ num' = 0 := by
    have key : ∀ {a b : Nat}, (b : ℚ) ≠ 0 → (a = 0 ↔ (a : ℚ) / b = 0) := fun hb => by
      rw [div_eq_zero_iff, or_iff_left hb, Nat.cast_eq_zero]
    rw [key hd, h, ← key hd']
  unfold nearest
  by_cases h0 : num = 0
  · rw [if_pos h0, if_pos (hzero.mp h0)]
  · rw [if_neg h0, if_neg (fun h' => h0 (hzero.mpr h')), if_neg (by omega), if_neg (by omega),
      nearestParts_congr (by omega) hden (by omega) hden' h]

end Binary64

end TradeLedger
