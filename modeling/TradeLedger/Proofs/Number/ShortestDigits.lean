import Mathlib
import TradeLedger.Proofs.Number.Nearest
/-!
# The shortest digits read back as the word

`Binary64.shortest` finds the decimal a float prints as. It places the value's leading decimal
digit from a guess by the binary logarithm, then for each length from one to seventeen digits
tests the two grid points around the value against the word's rounding interval, stopping at
the first length with a point in it; trailing zeros are dropped last. The guess is off by at
most three, as `78913 / 2 ^ 18` and `78914 / 2 ^ 18` bracket `log10 2`, and the interval is
wider than the grid of seventeen digits, so the search never falls through.

## Theorems

* `Binary64.decimalExponent_spec`: the leading digit's place.
* `Binary64.shortest_roundsTo`: the digits found read back as the word.
* `Binary64.le_exp_shortest`: no coarser grid meeting the interval is skipped, so a float
  rounded from a decimal with few places prints with no more places.
-/

namespace TradeLedger
namespace Binary64

/-! ### Exact comparisons -/

theorem pow2Ratio_spec (e : Int) :
    0 < (pow2Ratio e).1 ∧ 0 < (pow2Ratio e).2 ∧
      ((pow2Ratio e).1 : ℚ) / (pow2Ratio e).2 = 2 ^ e := by
  unfold pow2Ratio
  split
  · rename_i he
    obtain ⟨k, rfl⟩ := Int.eq_ofNat_of_zero_le he
    refine ⟨by rw [Nat.pow_eq]; positivity, Nat.one_pos, ?_⟩
    rw [cast_pow_two, Int.toNat_natCast, Nat.cast_one, div_one, zpow_natCast]
  · rename_i he
    obtain ⟨k, hk⟩ : ∃ k : Nat, e = -(k : Int) := ⟨(-e).toNat, by omega⟩
    subst hk
    refine ⟨Nat.one_pos, by rw [Nat.pow_eq]; positivity, ?_⟩
    rw [cast_pow_two, neg_neg, Int.toNat_natCast, Nat.cast_one, one_div, zpow_neg, zpow_natCast]

theorem cast_pow_ten (k : Nat) : ((Nat.pow 10 k : Nat) : ℚ) = (10 : ℚ) ^ k := by
  rw [Nat.pow_eq, Nat.cast_pow, Nat.cast_ofNat]

theorem pow10Ratio_spec (k : Int) :
    0 < (pow10Ratio k).1 ∧ 0 < (pow10Ratio k).2 ∧
      ((pow10Ratio k).1 : ℚ) / (pow10Ratio k).2 = 10 ^ k := by
  unfold pow10Ratio
  split
  · rename_i hk
    obtain ⟨j, rfl⟩ := Int.eq_ofNat_of_zero_le hk
    refine ⟨by rw [Nat.pow_eq]; positivity, Nat.one_pos, ?_⟩
    rw [cast_pow_ten, Int.toNat_natCast, Nat.cast_one, div_one, zpow_natCast]
  · rename_i hk
    obtain ⟨j, hj⟩ : ∃ j : Nat, k = -(j : Int) := ⟨(-k).toNat, by omega⟩
    subst hj
    refine ⟨Nat.one_pos, by rw [Nat.pow_eq]; positivity, ?_⟩
    rw [cast_pow_ten, neg_neg, Int.toNat_natCast, Nat.cast_one, one_div, zpow_neg, zpow_natCast]

theorem compare_natCast (a b : Nat) : compare a b = compare (a : ℚ) (b : ℚ) := by
  rcases lt_trichotomy a b with h | rfl | h
  · rw [compare_lt_iff_lt.mpr h, compare_lt_iff_lt.mpr (by exact_mod_cast h)]
  · rw [compare_eq_iff_eq.mpr rfl, compare_eq_iff_eq.mpr rfl]
  · rw [compare_gt_iff_gt.mpr h, compare_gt_iff_gt.mpr (by exact_mod_cast h)]

/-- Scaling both sides by one positive factor does not change a comparison. -/
theorem compare_mul_right {x y s : ℚ} (hs : 0 < s) : compare (x * s) (y * s) = compare x y := by
  rcases lt_trichotomy x y with h | rfl | h
  · rw [compare_lt_iff_lt.mpr h, compare_lt_iff_lt.mpr (mul_lt_mul_of_pos_right h hs)]
  · rw [compare_eq_iff_eq.mpr rfl, compare_eq_iff_eq.mpr rfl]
  · rw [compare_gt_iff_gt.mpr h, compare_gt_iff_gt.mpr (mul_lt_mul_of_pos_right h hs)]

/-- `compareScaled` compares `a * 2 ^ e` with `c * 10 ^ k` exactly. -/
theorem compareScaled_eq (a : Nat) (e : Int) (c : Nat) (k : Int) :
    compareScaled a e c k = compare ((a : ℚ) * 2 ^ e) ((c : ℚ) * 10 ^ k) := by
  obtain ⟨-, htd, ht⟩ := pow2Ratio_spec e
  obtain ⟨-, hpd, hp⟩ := pow10Ratio_spec k
  unfold compareScaled
  generalize pow2Ratio e = t at htd ht
  generalize pow10Ratio k = p at hpd hp
  obtain ⟨tn, td⟩ := t
  obtain ⟨pn, pd⟩ := p
  dsimp only at htd ht hpd hp ⊢
  have hs : (0 : ℚ) < td * pd := by positivity
  rw [compare_natCast, ← compare_mul_right hs (x := (a : ℚ) * 2 ^ e) (y := (c : ℚ) * 10 ^ k), ← ht,
    ← hp]
  congr 1
  · push_cast
    field_simp
  · push_cast
    field_simp

theorem floorScaled_eq (a : Nat) (e : Int) (k : Int) :
    floorScaled a e k = ⌊(a : ℚ) * 2 ^ e / 10 ^ k⌋₊ := by
  obtain ⟨-, htd, ht⟩ := pow2Ratio_spec e
  obtain ⟨hpn, -, hp⟩ := pow10Ratio_spec k
  unfold floorScaled
  generalize pow2Ratio e = t at htd ht
  generalize pow10Ratio k = p at hpn hp
  obtain ⟨tn, td⟩ := t
  obtain ⟨pn, pd⟩ := p
  dsimp only at htd ht hpn hp ⊢
  rw [← Nat.floor_div_eq_div (K := ℚ), ← ht, ← hp]
  congr 1
  push_cast
  field_simp

/-! ### The leading decimal digit -/

/-- The two powers that bracket `log10 2` between `78913 / 2 ^ 18` and `78914 / 2 ^ 18`, compared
as numbers. -/
theorem nat_ten_pow_le_two_pow : Nat.pow 10 78913 ≤ Nat.pow 2 262144 := by decide +kernel

theorem nat_two_pow_le_ten_pow : Nat.pow 2 262144 ≤ Nat.pow 10 78914 := by decide +kernel

theorem ten_pow_le_two_pow : ((Nat.pow 10 78913 : Nat) : ℚ) ≤ ((Nat.pow 2 262144 : Nat) : ℚ) :=
  Nat.cast_le.mpr nat_ten_pow_le_two_pow

theorem two_pow_le_ten_pow : ((Nat.pow 2 262144 : Nat) : ℚ) ≤ ((Nat.pow 10 78914 : Nat) : ℚ) :=
  Nat.cast_le.mpr nat_two_pow_le_ten_pow

/-- A positive power of a base at most another's, raised to an exponent of either sign. -/
theorem zpow_le_zpow_of_base {x y : ℚ} (hx : 0 < x) (hxy : x ≤ y) (b : Int) :
    (0 ≤ b → x ^ b ≤ y ^ b) ∧ (b < 0 → y ^ b ≤ x ^ b) := by
  constructor
  · intro hb
    obtain ⟨k, rfl⟩ := Int.eq_ofNat_of_zero_le hb
    rw [zpow_natCast, zpow_natCast]
    gcongr
  · intro hb
    obtain ⟨k, hk⟩ : ∃ k : Nat, b = -(k : Int) := ⟨(-b).toNat, by omega⟩
    subst hk
    rw [zpow_neg, zpow_neg, zpow_natCast, zpow_natCast]
    exact inv_anti₀ (by positivity) (by gcongr)

theorem zpow_pow_eq (x : ℚ) (a : Int) (n : Nat) : (x ^ a) ^ n = x ^ (a * (n : Int)) := by
  rw [zpow_mul, zpow_natCast]

theorem pow_zpow_eq (x : ℚ) (n : Nat) (b : Int) : (x ^ n) ^ b = x ^ ((n : Int) * b) := by
  rw [zpow_mul, zpow_natCast]

theorem cast_pow_ten_pos (n : Nat) : 0 < ((Nat.pow 10 n : Nat) : ℚ) := by
  rw [cast_pow_ten]
  positivity

theorem cast_pow_two_pos (n : Nat) : 0 < ((Nat.pow 2 n : Nat) : ℚ) := by
  rw [cast_pow_two]
  positivity

theorem cast_pow_ten_zpow (n : Nat) (b : Int) :
    ((Nat.pow 10 n : Nat) : ℚ) ^ b = (10 : ℚ) ^ ((n : Int) * b) := by
  rw [cast_pow_ten, pow_zpow_eq]

theorem cast_pow_two_zpow (n : Nat) (b : Int) :
    ((Nat.pow 2 n : Nat) : ℚ) ^ b = (2 : ℚ) ^ ((n : Int) * b) := by
  rw [cast_pow_two, pow_zpow_eq]

/-- A power of ten against a power of two, when the exponents are in a ratio that a pair of
powers bounds: `10 ^ P ≤ 2 ^ Q` serves nonnegative `b`, `2 ^ Q ≤ 10 ^ P` negative `b`. -/
theorem ten_zpow_le_two_zpow_of {P Q : Nat} {a b : Int}
    (hPQ : (0 ≤ b ∧ ((Nat.pow 10 P : Nat) : ℚ) ≤ ((Nat.pow 2 Q : Nat) : ℚ)) ∨
      (b < 0 ∧ ((Nat.pow 2 Q : Nat) : ℚ) ≤ ((Nat.pow 10 P : Nat) : ℚ)))
    (hQ : 0 < Q) (h : (Q : Int) * a ≤ P * b) :
    (10 : ℚ) ^ a ≤ 2 ^ b := by
  refine (pow_le_pow_iff_left₀ (n := Q) (by positivity) (by positivity) (by omega)).mp ?_
  rw [zpow_pow_eq, zpow_pow_eq]
  calc (10 : ℚ) ^ (a * (Q : Int)) ≤ 10 ^ ((P : Int) * b) :=
        zpow_le_zpow_right₀ (by norm_num) (by linarith)
    _ = ((Nat.pow 10 P : Nat) : ℚ) ^ b := (cast_pow_ten_zpow P b).symm
    _ ≤ ((Nat.pow 2 Q : Nat) : ℚ) ^ b := by
        rcases hPQ with ⟨hb, hle⟩ | ⟨hb, hle⟩
        · exact (zpow_le_zpow_of_base (cast_pow_ten_pos P) hle b).1 hb
        · exact (zpow_le_zpow_of_base (cast_pow_two_pos Q) hle b).2 hb
    _ = 2 ^ (b * (Q : Int)) := by rw [cast_pow_two_zpow, mul_comm]

theorem two_zpow_le_ten_zpow_of {P Q : Nat} {a b : Int}
    (hPQ : (0 ≤ b ∧ ((Nat.pow 2 Q : Nat) : ℚ) ≤ ((Nat.pow 10 P : Nat) : ℚ)) ∨
      (b < 0 ∧ ((Nat.pow 10 P : Nat) : ℚ) ≤ ((Nat.pow 2 Q : Nat) : ℚ)))
    (hQ : 0 < Q) (h : (P : Int) * b ≤ Q * a) :
    (2 : ℚ) ^ b ≤ 10 ^ a := by
  refine (pow_le_pow_iff_left₀ (n := Q) (by positivity) (by positivity) (by omega)).mp ?_
  rw [zpow_pow_eq, zpow_pow_eq]
  calc (2 : ℚ) ^ (b * (Q : Int)) = ((Nat.pow 2 Q : Nat) : ℚ) ^ b := by
        rw [cast_pow_two_zpow, mul_comm]
    _ ≤ ((Nat.pow 10 P : Nat) : ℚ) ^ b := by
        rcases hPQ with ⟨hb, hle⟩ | ⟨hb, hle⟩
        · exact (zpow_le_zpow_of_base (cast_pow_two_pos Q) hle b).1 hb
        · exact (zpow_le_zpow_of_base (cast_pow_ten_pos P) hle b).2 hb
    _ = 10 ^ ((P : Int) * b) := cast_pow_ten_zpow P b
    _ ≤ 10 ^ (a * (Q : Int)) := zpow_le_zpow_right₀ (by norm_num) (by linarith)

theorem ten_zpow_lt_iff {a b : Int} : (10 : ℚ) ^ a < 10 ^ b ↔ a < b :=
  zpow_lt_zpow_iff_right₀ (by norm_num)

/-- `fixExponent` walks a guess within reach of the decimal logarithm onto it. -/
theorem fixExponent_eq {m : Nat} {e L : Int} (hL₁ : (10 : ℚ) ^ L ≤ m * 2 ^ e)
    (hL₂ : (m : ℚ) * 2 ^ e < 10 ^ (L + 1)) :
    ∀ (fuel : Nat) (d : Int), d - L < fuel → L - d < fuel → fixExponent m e fuel d = L := by
  intro fuel
  induction fuel with
  | zero => intro d h₁ h₂; omega
  | succ fuel ih =>
    intro d h₁ h₂
    have hc₁ := compareScaled_eq m e 1 (d + 1)
    have hc₂ := compareScaled_eq m e 1 d
    rw [Nat.cast_one, one_mul] at hc₁ hc₂
    simp only [fixExponent, hc₁, hc₂, bne_iff_ne, ne_eq, beq_iff_eq, compare_lt_iff_lt, not_lt]
    split_ifs with hup hdown
    · -- the guess is below the logarithm: one step up
      have : d + 1 < L + 1 := ten_zpow_lt_iff.mp (lt_of_le_of_lt hup hL₂)
      exact ih (d + 1) (by omega) (by omega)
    · -- the guess is above it: one step down
      have : L < d := ten_zpow_lt_iff.mp (lt_of_le_of_lt hL₁ hdown)
      exact ih (d - 1) (by omega) (by omega)
    · -- the guess brackets the value
      have h₃ : d < L + 1 := ten_zpow_lt_iff.mp (lt_of_le_of_lt (not_lt.mp hdown) hL₂)
      have h₄ : L < d + 1 := ten_zpow_lt_iff.mp (lt_of_le_of_lt hL₁ (not_le.mp hup))
      omega

/-- `decimalExponent` is the decimal logarithm of a finite positive value: its guess from the
binary logarithm is off by at most three, and four corrections reach it. -/
theorem decimalExponent_spec {m : Nat} {e : Int} (hm : 0 < m) (hm53 : m < Nat.pow 2 53)
    (hlo : minExponent ≤ e) (hhi : e ≤ maxExponent) :
    (10 : ℚ) ^ decimalExponent m e ≤ m * 2 ^ e ∧
      (m : ℚ) * 2 ^ e < 10 ^ (decimalExponent m e + 1) := by
  have hmin : minExponent = -1074 := rfl
  have hmax : maxExponent = 971 := rfl
  have hv : (0 : ℚ) < m * 2 ^ e := by positivity
  -- the decimal logarithm
  obtain ⟨L, hL₁, hL₂⟩ : ∃ L : Int, (10 : ℚ) ^ L ≤ m * 2 ^ e ∧ (m : ℚ) * 2 ^ e < 10 ^ (L + 1) := by
    refine ⟨Int.log 10 ((m : ℚ) * 2 ^ e), ?_, ?_⟩
    · exact_mod_cast Int.zpow_log_le_self (b := 10) (by norm_num) hv
    · exact_mod_cast Int.lt_zpow_succ_log_self (b := 10) (by norm_num) ((m : ℚ) * 2 ^ e)
  -- the binary logarithm
  have hlog : Nat.log2 m ≤ 52 := by
    have := (Nat.log2_lt (by omega)).mpr (show m < 2 ^ 53 by rw [pow_two_53] at hm53; omega)
    omega
  have hB₁ : (2 : ℚ) ^ ((Nat.log2 m : Int) + e) ≤ m * 2 ^ e := by
    rw [zpow_add₀ two_ne_zero, zpow_natCast]
    gcongr
    exact_mod_cast Nat.log2_self_le (by omega)
  have hB₂ : (m : ℚ) * 2 ^ e < 2 ^ ((Nat.log2 m : Int) + e + 1) := by
    rw [add_right_comm, zpow_add₀ two_ne_zero, ← Nat.cast_succ, zpow_natCast]
    gcongr
    exact_mod_cast Nat.lt_log2_self
  -- the guess, within three of the logarithm
  generalize hB : (Nat.log2 m : Int) + e = B at hB₁ hB₂
  have hg₁ : 262144 * (B * 78913 / 262144) ≤ B * 78913 := by omega
  have hg₂ : B * 78913 < 262144 * (B * 78913 / 262144 + 1) := by omega
  have hlow : (10 : ℚ) ^ (B * 78913 / 262144 - 3) ≤ 2 ^ B := by
    by_cases hb : 0 ≤ B
    · have hlin : ((262144 : Nat) : Int) * (B * 78913 / 262144 - 3) ≤ ((78913 : Nat) : Int) * B := by
        push_cast
        omega
      exact ten_zpow_le_two_zpow_of (.inl ⟨hb, ten_pow_le_two_pow⟩) (by norm_num) hlin
    · have hlin : ((262144 : Nat) : Int) * (B * 78913 / 262144 - 3) ≤ ((78914 : Nat) : Int) * B := by
        push_cast
        omega
      exact ten_zpow_le_two_zpow_of (.inr ⟨lt_of_not_ge hb, two_pow_le_ten_pow⟩) (by norm_num) hlin
  have hhigh : (2 : ℚ) ^ (B + 1) ≤ 10 ^ (B * 78913 / 262144 + 4) := by
    by_cases hb : 0 ≤ B + 1
    · have hlin : ((78914 : Nat) : Int) * (B + 1) ≤ ((262144 : Nat) : Int) * (B * 78913 / 262144 + 4) := by
        push_cast
        omega
      exact two_zpow_le_ten_zpow_of (.inl ⟨hb, two_pow_le_ten_pow⟩) (by norm_num) hlin
    · have hlin : ((78913 : Nat) : Int) * (B + 1) ≤ ((262144 : Nat) : Int) * (B * 78913 / 262144 + 4) := by
        push_cast
        omega
      exact two_zpow_le_ten_zpow_of (.inr ⟨lt_of_not_ge hb, ten_pow_le_two_pow⟩) (by norm_num) hlin
  have h₁ : B * 78913 / 262144 - 3 < L + 1 := ten_zpow_lt_iff.mp (lt_of_le_of_lt (hlow.trans hB₁) hL₂)
  have h₂ : L < B * 78913 / 262144 + 4 := ten_zpow_lt_iff.mp (lt_of_le_of_lt hL₁ (hB₂.trans_le hhigh))
  have hfix := fixExponent_eq hL₁ hL₂ 4 (B * 78913 / 262144) (by omega) (by omega)
  unfold decimalExponent
  rw [hB, hfix]
  exact ⟨hL₁, hL₂⟩

/-! ### The interval test -/

/-- `inInterval` tests a decimal against an interval measured in quarters of `2 ^ e`. -/
theorem inInterval_iff (lowNum highNum : Nat) (e : Int) (inclusive : Bool) (c : Nat) (k : Int) :
    inInterval lowNum highNum e inclusive c k = true ↔
      Between ((lowNum : ℚ) * 2 ^ (e - 2)) ((highNum : ℚ) * 2 ^ (e - 2)) inclusive
        ((c : ℚ) * 10 ^ k) := by
  unfold inInterval Between
  rw [compareScaled_eq, compareScaled_eq]
  generalize (lowNum : ℚ) * 2 ^ (e - 2) = lo
  generalize (highNum : ℚ) * 2 ^ (e - 2) = hi
  generalize (c : ℚ) * 10 ^ k = x
  simp only [Bool.and_eq_true, Bool.or_eq_true, beq_iff_eq, compare_lt_iff_lt, compare_eq_iff_eq,
    compare_gt_iff_gt, eq_comm (a := hi)]

theorem inInterval_roundsTo (m : Nat) (e : Int) (c : Nat) (k : Int) :
    inInterval (lowQuarters m e) (4 * m + 2) e (m % 2 == 0) c k = true ↔
      RoundsTo m e ((c : ℚ) * 10 ^ k) := by
  rw [inInterval_iff]
  rfl

theorem roundsTo_self {m : Nat} {e : Int} (hm : 0 < m) : RoundsTo m e ((m : ℚ) * 2 ^ e) := by
  have h2e : (0 : ℚ) < 2 ^ e := by positivity
  rw [roundsTo_iff, mul_div_cancel_right₀ _ h2e.ne', highQuarters_div_four]
  refine ⟨.inl ?_, .inl (by linarith)⟩
  have h₁ : lowQuarters m e + 1 ≤ 4 * m := by unfold lowQuarters; split <;> omega
  have : (lowQuarters m e : ℚ) + 1 ≤ 4 * m := by exact_mod_cast h₁
  linarith

/-- Two points of a rounding interval are at most a unit `2 ^ e` apart. -/
theorem roundsTo_dist {m : Nat} {e : Int} {x y : ℚ} (hx : RoundsTo m e x) (hy : RoundsTo m e y) :
    x - y ≤ 2 ^ e := by
  have h2e : (0 : ℚ) < 2 ^ e := by positivity
  have hlow : (m : ℚ) - 1 / 2 ≤ (lowQuarters m e : ℚ) / 4 := by
    have h₁ : 4 * m ≤ lowQuarters m e + 2 := by unfold lowQuarters; split <;> omega
    have : 4 * (m : ℚ) ≤ lowQuarters m e + 2 := by exact_mod_cast h₁
    linarith
  rw [roundsTo_iff, highQuarters_div_four] at hx hy
  have h₁ := hx.le_right
  have h₂ := hy.left_le
  have : x / 2 ^ e - y / 2 ^ e ≤ 1 := by linarith
  rw [← sub_div, div_le_one h2e] at this
  exact this

/-! ### Candidates -/

/-- A candidate has the length's exponent, is the grid point at or just above the value, and
lies in the rounding interval. -/
theorem candidate_spec {m : Nat} {e top : Int} {n : Nat} {d : Digits}
    (h : candidate m e top n = some d) :
    d.exp = top - n + 1 ∧
      (d.coeff = floorScaled m e (top - n + 1) ∨ d.coeff = floorScaled m e (top - n + 1) + 1) ∧
      RoundsTo m e ((d.coeff : ℚ) * 10 ^ d.exp) := by
  have hlow : (if m = Nat.pow 2 52 ∧ minExponent < e then 4 * m - 1 else 4 * m - 2) =
      lowQuarters m e := rfl
  unfold candidate at h
  dsimp only at h
  rw [hlow] at h
  generalize floorScaled m e (top - n + 1) = down at h ⊢
  have hd := inInterval_roundsTo m e down (top - n + 1)
  have hu := inInterval_roundsTo m e (down + 1) (top - n + 1)
  generalize inInterval (lowQuarters m e) (4 * m + 2) e (m % 2 == 0) down (top - n + 1) = downOk
    at h hd
  generalize inInterval (lowQuarters m e) (4 * m + 2) e (m % 2 == 0) (down + 1) (top - n + 1) = upOk
    at h hu
  cases downOk <;> cases upOk <;> simp only [Bool.and_true, Bool.and_false, Bool.false_eq_true,
    ↓reduceIte, reduceCtorEq, Option.some.injEq] at h
  · -- only the grid point above qualifies
    subst h
    exact ⟨rfl, .inr rfl, hu.mp rfl⟩
  · -- only the grid point below qualifies
    subst h
    exact ⟨rfl, .inl rfl, hd.mp rfl⟩
  · -- both qualify: the nearer one, a tie going to the even digit
    split at h <;> cases h
    · exact ⟨rfl, .inl rfl, hd.mp rfl⟩
    · exact ⟨rfl, .inr rfl, hu.mp rfl⟩
    · split
      · exact ⟨rfl, .inl rfl, hd.mp rfl⟩
      · exact ⟨rfl, .inr rfl, hu.mp rfl⟩

/-- A length has a candidate as soon as either grid point around the value is in the interval. -/
theorem candidate_isSome {m : Nat} {e top : Int} {n : Nat}
    (h : RoundsTo m e ((floorScaled m e (top - n + 1) : ℚ) * 10 ^ (top - n + 1)) ∨
      RoundsTo m e (((floorScaled m e (top - n + 1) + 1 : Nat) : ℚ) * 10 ^ (top - n + 1))) :
    (candidate m e top n).isSome := by
  have hlow : (if m = Nat.pow 2 52 ∧ minExponent < e then 4 * m - 1 else 4 * m - 2) =
      lowQuarters m e := rfl
  unfold candidate
  dsimp only
  rw [hlow]
  generalize floorScaled m e (top - n + 1) = down at h ⊢
  rw [← inInterval_roundsTo, ← inInterval_roundsTo] at h
  generalize inInterval (lowQuarters m e) (4 * m + 2) e (m % 2 == 0) down (top - n + 1) = downOk
    at h ⊢
  generalize inInterval (lowQuarters m e) (4 * m + 2) e (m % 2 == 0) (down + 1) (top - n + 1) = upOk
    at h ⊢
  cases downOk <;> cases upOk <;> simp only [Bool.and_true, Bool.and_false, Bool.false_eq_true,
    ↓reduceIte, Option.isSome_some, or_self] at h ⊢
  split <;> rfl

/-- If some multiple of the grid step of a length is in the rounding interval, the length has a
candidate: one of the two grid points around the value lies between that multiple and the
value. -/
theorem candidate_isSome_of {m : Nat} {e top : Int} {n : Nat} (hm : 0 < m) {j : Nat}
    (hj : RoundsTo m e ((j : ℚ) * 10 ^ (top - n + 1))) : (candidate m e top n).isSome := by
  apply candidate_isSome
  have hv := roundsTo_self (e := e) hm
  have hS : (0 : ℚ) < 10 ^ (top - n + 1) := by positivity
  have hvpos : (0 : ℚ) < m * 2 ^ e := by positivity
  rw [floorScaled_eq]
  generalize hk : top - n + 1 = k at hj hS ⊢
  generalize hf : ⌊(m : ℚ) * 2 ^ e / 10 ^ k⌋₊ = f
  have hf₁ : (f : ℚ) * 10 ^ k ≤ m * 2 ^ e := by
    rw [← le_div_iff₀ hS, ← hf]
    exact Nat.floor_le (by positivity)
  have hf₂ : (m : ℚ) * 2 ^ e < ((f + 1 : Nat) : ℚ) * 10 ^ k := by
    rw [← div_lt_iff₀ hS, ← hf]
    push_cast
    exact Nat.lt_floor_add_one _
  by_cases hle : (j : ℚ) * 10 ^ k ≤ m * 2 ^ e
  · -- the multiple is below the value: so is the grid point below it
    have hjf : j ≤ f := by
      rw [← hf]
      exact Nat.le_floor (by rw [le_div_iff₀ hS]; exact hle)
    left
    exact hj.of_le_of_le hv (by gcongr) hf₁
  · -- the multiple is above the value: so is the grid point above it
    have hfj : f + 1 ≤ j := by
      have : (m : ℚ) * 2 ^ e / 10 ^ k < j := by rw [div_lt_iff₀ hS]; exact lt_of_not_ge hle
      have : f < j := by rw [← hf]; exact (Nat.floor_lt (by positivity)).mpr this
      omega
    right
    exact hv.of_le_of_le hj hf₂.le (by gcongr)

end Binary64

/-! ### Trailing zeros -/

namespace Digits

theorem trim_value (fuel : Nat) (d : Digits) :
    ((d.trim fuel).coeff : ℚ) * 10 ^ (d.trim fuel).exp = (d.coeff : ℚ) * 10 ^ d.exp := by
  induction fuel generalizing d with
  | zero => rfl
  | succ fuel ih =>
    unfold trim
    split
    · rename_i h
      rw [ih]
      -- a dropped zero moves into the exponent
      have hc : d.coeff = 10 * (d.coeff / 10) := by omega
      dsimp only
      conv_rhs => rw [hc]
      rw [zpow_add_one₀ (by norm_num)]
      push_cast
      ring
    · rfl

theorem exp_le_trim (fuel : Nat) (d : Digits) : d.exp ≤ (d.trim fuel).exp := by
  induction fuel generalizing d with
  | zero => exact le_rfl
  | succ fuel ih =>
    unfold trim
    split
    · exact le_trans (by dsimp only; omega) (ih _)
    · exact le_rfl

theorem trim_ten (fuel : Nat) (k : Int) : (⟨10, k⟩ : Digits).trim (fuel + 2) = ⟨1, k + 1⟩ := by
  rw [trim, if_pos (show (10 : Nat) ≠ 0 ∧ 10 % 10 = 0 by decide)]
  rw [trim, if_neg (show ¬((10 / 10 : Nat) ≠ 0 ∧ 10 / 10 % 10 = 0) by decide)]
  simp

end Digits

namespace Binary64

/-! ### The search -/

/-- The first index below `N` at which `f` has a value. -/
theorem findSome?_range_eq_some {α : Type} {f : Nat → Option α} {N : Nat} {a : α}
    (h : (List.range N).findSome? f = some a) : ∃ i < N, f i = some a ∧ ∀ j < i, f j = none := by
  induction N with
  | zero => simp at h
  | succ N ih =>
    rw [List.range_succ, List.findSome?_append] at h
    cases hN : (List.range N).findSome? f with
    | some b =>
      rw [hN, Option.some_or] at h
      cases h
      obtain ⟨i, hi, hfi, hbefore⟩ := ih hN
      exact ⟨i, by omega, hfi, hbefore⟩
    | none =>
      rw [hN, Option.none_or] at h
      simp only [List.findSome?_cons, List.findSome?_nil] at h
      refine ⟨N, by omega, ?_, fun j hj => List.findSome?_eq_none_iff.mp hN j (List.mem_range.mpr hj)⟩
      split at h
      · rename_i b hb
        rw [hb, h]
      · cases h

/-! ### The shortest digits -/

section Shortest

variable {m : Nat} {e : Int}

/-- The rounding interval is wider than the grid step of seventeen digits, so that grid has a
point in it and the search always ends with a candidate. -/
theorem candidate_seventeen_isSome (hv : Normal m e) (hm : 0 < m) (he : e ≤ maxExponent) :
    (candidate m e (decimalExponent m e) 17).isSome := by
  obtain ⟨hL₁, -⟩ := decimalExponent_spec hm hv.lt hv.low he
  generalize decimalExponent m e = L at hL₁ ⊢
  have h2e : (0 : ℚ) < 2 ^ e := by positivity
  -- the grid step in units of `2 ^ e`, at most the value over `10 ^ 16`
  generalize hu : (10 : ℚ) ^ (L - ((17 : Nat) : Int) + 1) / 2 ^ e = u
  have hupos : 0 < u := by rw [← hu]; positivity
  have hu_le : u * 10 ^ 16 ≤ m := by
    rw [← hu, div_mul_eq_mul_div, div_le_iff₀ h2e]
    calc (10 : ℚ) ^ (L - ((17 : Nat) : Int) + 1) * 10 ^ 16 = 10 ^ L := by
          rw [← zpow_natCast, ← zpow_add₀ (by norm_num)]
          congr 1
          push_cast
          ring
      _ ≤ m * 2 ^ e := hL₁
  have hm53 : (m : ℚ) ≤ 9007199254740991 := by
    have := hv.lt
    rw [pow_two_53] at this
    exact_mod_cast (show m ≤ 9007199254740991 by omega)
  have hwidth : u < (m : ℚ) + 1 / 2 - (lowQuarters m e : ℚ) / 4 := by
    by_cases hb : m = Nat.pow 2 52 ∧ minExponent < e
    · -- at the bottom of a binade the interval is three quarters of a unit wide
      obtain ⟨hm52, he⟩ := hb
      subst hm52
      rw [lowQuarters_bottom he]
      rw [pow_two_52] at hu_le ⊢
      push_cast at hu_le ⊢
      linarith
    · rw [lowQuarters_div_four hm hb]
      linarith
  -- the last multiple of the step below the upper end
  have hhi : (0 : ℚ) < ((m : ℚ) + 1 / 2) / u := by positivity
  generalize hC : ⌈((m : ℚ) + 1 / 2) / u⌉₊ = C
  have hC₁ : 1 ≤ C := by
    rw [← hC]
    exact Nat.one_le_iff_ne_zero.mpr (by rw [ne_eq, Nat.ceil_eq_zero, not_le]; exact hhi)
  have hC₂ : (m : ℚ) + 1 / 2 ≤ C * u := by
    rw [← div_le_iff₀ hupos, ← hC]
    exact Nat.le_ceil _
  have hC₃ : ((C : ℚ) - 1) * u < m + 1 / 2 := by
    have : (C : ℚ) < ((m : ℚ) + 1 / 2) / u + 1 := by rw [← hC]; exact Nat.ceil_lt_add_one hhi.le
    rw [← lt_div_iff₀ hupos]
    linarith
  apply candidate_isSome_of hm (j := C - 1)
  rw [roundsTo_iff, highQuarters_div_four, mul_div_assoc, hu, Nat.cast_sub hC₁, Nat.cast_one]
  exact ⟨.inl (by linarith), .inl hC₃⟩

/-- `shortest` trims the candidate of the first length that has one, a length of at most
seventeen digits. -/
theorem shortest_eq (hv : Normal m e) (hm : 0 < m) (he : e ≤ maxExponent) :
    ∃ n d, 1 ≤ n ∧ n ≤ 17 ∧ candidate m e (decimalExponent m e) n = some d ∧
      (∀ n', 1 ≤ n' → n' < n → candidate m e (decimalExponent m e) n' = none) ∧
      shortest m e = d.trim 400 := by
  have hsome : ((List.range 17).findSome? fun i => candidate m e (decimalExponent m e) (i + 1)).isSome :=
    List.findSome?_isSome_iff.mpr ⟨16, List.mem_range.mpr (by norm_num),
      candidate_seventeen_isSome hv hm he⟩
  obtain ⟨d, hd⟩ := Option.isSome_iff_exists.mp hsome
  obtain ⟨i, hi, hfi, hbefore⟩ := findSome?_range_eq_some hd
  refine ⟨i + 1, d, by omega, by omega, hfi, fun n' h₁ h₂ => ?_, ?_⟩
  · have := hbefore (n' - 1) (by omega)
    rwa [Nat.sub_add_cancel h₁] at this
  · unfold shortest
    dsimp only
    rw [hd, Option.getD_some]

/-- The shortest digits of a finite positive word read back as the word. -/
theorem shortest_roundsTo (hv : Normal m e) (hm : 0 < m) (he : e ≤ maxExponent) :
    RoundsTo m e (((shortest m e).coeff : ℚ) * 10 ^ (shortest m e).exp) := by
  obtain ⟨n, d, -, -, hd, -, hs⟩ := shortest_eq hv hm he
  rw [hs, Digits.trim_value]
  exact (candidate_spec hd).2.2

/-- A normal word's unit is below the unit of its leading decimal digit. -/
theorem two_zpow_lt_lead (hv : Normal m e) (h52 : Nat.pow 2 52 ≤ m) (he : e ≤ maxExponent) :
    (2 : ℚ) ^ e < 10 ^ decimalExponent m e := by
  have hm : 0 < m := by rw [pow_two_52] at h52; omega
  obtain ⟨-, hL₂⟩ := decimalExponent_spec hm hv.lt hv.low he
  have h2e : (0 : ℚ) < 2 ^ e := by positivity
  have hm' : (4503599627370496 : ℚ) ≤ m := by
    rw [pow_two_52] at h52
    exact_mod_cast h52
  rw [zpow_add_one₀ (by norm_num)] at hL₂
  nlinarith

/-- A decimal on the grid `10 ^ K` in the rounding interval of a normal word puts the shortest
digits on that grid or a coarser one. -/
theorem le_exp_shortest (hv : Normal m e) (h52 : Nat.pow 2 52 ≤ m) (he : e ≤ maxExponent)
    {j : Nat} {K : Int} (hj : 0 < j) (hK : RoundsTo m e ((j : ℚ) * 10 ^ K)) :
    K ≤ (shortest m e).exp := by
  have hm : 0 < m := by rw [pow_two_52] at h52; omega
  have hunit := two_zpow_lt_lead hv h52 he
  obtain ⟨hL₁, hL₂⟩ := decimalExponent_spec hm hv.lt hv.low he
  obtain ⟨n, d, hn₁, -, hd, hfirst, hs⟩ := shortest_eq hv hm he
  obtain ⟨hexp, -, hin⟩ := candidate_spec hd
  generalize decimalExponent m e = L at hL₁ hL₂ hd hfirst hexp hunit
  rw [hs]
  by_cases hKL : K ≤ L
  · -- the length of the grid `10 ^ K` has a candidate, so the search stops there or before
    refine le_trans ?_ (Digits.exp_le_trim _ _)
    rw [hexp]
    by_contra hlt
    have hnone := hfirst (L - K + 1).toNat (by omega) (by omega)
    have hsome : (candidate m e L (L - K + 1).toNat).isSome :=
      candidate_isSome_of hm (j := j)
        (by rw [show L - (((L - K + 1).toNat : Nat) : Int) + 1 = K by omega]; exact hK)
    rw [hnone] at hsome
    cases hsome
  · -- the decimal is above the value, so ten units of the leading digit are in the interval
    have hv' := roundsTo_self (e := e) hm
    have hj1 : (1 : ℚ) ≤ j := by exact_mod_cast hj
    have hten : RoundsTo m e (((10 : Nat) : ℚ) * 10 ^ (L - ((1 : Nat) : Int) + 1)) := by
      have h10 : ((10 : Nat) : ℚ) * 10 ^ (L - ((1 : Nat) : Int) + 1) = 10 ^ (L + 1) := by
        rw [show L - ((1 : Nat) : Int) + 1 = L by omega, zpow_add_one₀ (by norm_num)]
        push_cast
        ring
      rw [h10]
      refine hv'.of_le_of_le hK hL₂.le ?_
      calc (10 : ℚ) ^ (L + 1) ≤ 10 ^ K := zpow_le_zpow_right₀ (by norm_num) (by omega)
        _ ≤ j * 10 ^ K := le_mul_of_one_le_left (by positivity) hj1
    -- so the first length has a candidate and the search stops there
    have hn : n = 1 := by
      by_contra hne
      have hnone := hfirst 1 le_rfl (by omega)
      have hsome := candidate_isSome_of hm hten
      rw [hnone] at hsome
      cases hsome
    subst hn
    -- its candidate is within a unit of ten, so it is ten, which trims to one at `L + 1`
    obtain ⟨c, k⟩ := d
    dsimp only at hexp hin
    subst hexp
    have h10 : ((10 : Nat) : ℚ) * 10 ^ (L - ((1 : Nat) : Int) + 1) = 10 * 10 ^ L := by
      rw [show L - ((1 : Nat) : Int) + 1 = L by omega]
      push_cast
      ring
    rw [h10] at hten
    have hk : L - ((1 : Nat) : Int) + 1 = L := by omega
    rw [hk] at hin
    have hc : c = 10 := by
      have h₁ := roundsTo_dist hin hten
      have h₂ := roundsTo_dist hten hin
      have hc₁ : (c : ℚ) < 11 := by nlinarith
      have hc₂ : (9 : ℚ) < c := by nlinarith
      have : c < 11 := by exact_mod_cast hc₁
      have : 9 < c := by exact_mod_cast hc₂
      omega
    subst hc
    rw [hk, show (400 : Nat) = 398 + 2 from rfl, Digits.trim_ten]
    dsimp only
    -- and the decimal is below ten units of the next digit
    by_contra hlt
    have hK' : (10 : ℚ) ^ (L + 2) ≤ j * 10 ^ K :=
      (zpow_le_zpow_right₀ (by norm_num) (by omega)).trans (le_mul_of_one_le_left (by positivity) hj1)
    have h₁ := roundsTo_dist hK hv'
    rw [show L + 2 = L + 1 + 1 by ring, zpow_add_one₀ (by norm_num), zpow_add_one₀ (by norm_num)] at hK'
    rw [zpow_add_one₀ (by norm_num)] at hL₂
    nlinarith

end Shortest

end Binary64

end TradeLedger
