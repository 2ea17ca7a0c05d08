import Mathlib
import TradeLedger.Proofs.Number.Exact
import TradeLedger.Proofs.Number.FloatOrder
/-!
# Rounding to the nearest float keeps order

The float of a decimal is the word nearest to its value, and a position's entry price is the
float of a weighted mean. It stays between the prices it averages when rounding to the nearest
word keeps `≤`, which it does in three steps. Finite words sit on a grid, and a ratio rounds to
one word only, so a larger ratio never rounds to a smaller word. Floats are ordered by a key,
and the key of a finite word follows its value. Last, the float nearest to a rational keeps
`≤`, and a finite float compares with the float of a decimal as its own decimal does.

## Main definitions

* `Binary64.wordKey`: the key of a finite word, read off its sign, significand and exponent.
* `Binary64.ofRat`: the float nearest to a rational.

## Theorems

* `Binary64.RoundsTo.value_le`: a larger ratio never rounds to a smaller word.
* `Binary64.ofRat_le_ofRat`: the nearest float keeps `≤`.
* `Decimal.toFloat_eq_ofRat`: the float of a decimal is the float of its value.
-/

namespace TradeLedger
namespace Binary64

open Float.Model

/-! ### The grid of words -/

namespace Normal

variable {m m' : Nat} {e e' : Int}

theorem lt_two_pow (hv : Normal m e) : (m : ℚ) < 2 ^ (53 : Nat) := by
  rw [← cast_pow_two]
  exact_mod_cast hv.lt

/-- Above the subnormal range a significand has its top bit set. -/
theorem two_pow_le (hv : Normal m e) (he : minExponent < e) : (2 : ℚ) ^ (52 : Nat) ≤ m := by
  rw [← cast_pow_two]
  exact_mod_cast hv.norm.resolve_right he.ne'

theorem value_lt_of_exponent_lt (hv : Normal m e) (hv' : Normal m' e') (he : e < e') :
    (m : ℚ) * 2 ^ e < m' * 2 ^ e' := by
  have hbig : (2 : ℚ) ^ (52 : Nat) ≤ m' := hv'.two_pow_le (lt_of_le_of_lt hv.low he)
  calc (m : ℚ) * 2 ^ e < 2 ^ (53 : Nat) * 2 ^ e := by gcongr; exact hv.lt_two_pow
    _ = 2 ^ (52 : Nat) * 2 ^ (e + 1) := by rw [zpow_add_one₀ two_ne_zero]; ring
    _ ≤ 2 ^ (52 : Nat) * 2 ^ e' :=
      mul_le_mul_of_nonneg_left (zpow_le_zpow_right₀ (by norm_num) (by omega)) (by positivity)
    _ ≤ m' * 2 ^ e' := by gcongr

/-- Of two normal words, the smaller has the exponent no larger. -/
theorem exponent_le_of_value_le (hv : Normal m e) (hv' : Normal m' e')
    (h : (m : ℚ) * 2 ^ e ≤ m' * 2 ^ e') : e ≤ e' := by
  by_contra hlt
  exact absurd h (not_le.mpr (hv'.value_lt_of_exponent_lt hv (by omega)))

/-- Two normal words are ordered as their exponents and then their significands are. -/
theorem lex_le_of_value_le (hv : Normal m e) (hv' : Normal m' e')
    (h : (m : ℚ) * 2 ^ e ≤ m' * 2 ^ e') : toLex (e, (m : ℤ)) ≤ toLex (e', (m' : ℤ)) := by
  rw [Prod.Lex.toLex_le_toLex]
  rcases (hv.exponent_le_of_value_le hv' h).lt_or_eq with he | rfl
  · exact .inl he
  · have h2 : (0 : ℚ) < 2 ^ e := by positivity
    exact .inr ⟨rfl, show (m : ℤ) ≤ m' by exact_mod_cast le_of_mul_le_mul_right h h2⟩

end Normal

/-- The rounding interval of a word ends at or below where the interval of a larger word
begins. -/
theorem roundsTo_gap {m m' : Nat} {e e' : Int} (hv : Normal m e) (hv' : Normal m' e')
    (hlt : (m : ℚ) * 2 ^ e < m' * 2 ^ e') :
    ((4 * m + 2 : Nat) : ℚ) * 2 ^ (e - 2) ≤ (lowQuarters m' e' : ℚ) * 2 ^ (e' - 2) := by
  have hlow := hv.low
  rcases (hv.exponent_le_of_value_le hv' hlt.le).lt_or_eq with he | rfl
  · -- the larger word has its top bit set, so its interval begins at `2 ^ 54 - 1` quarters or
    -- above, past the top of any interval one binade lower
    have hbig := hv'.norm.resolve_right (by omega)
    have hlt53 := hv.lt
    have hq : 2 * m + 1 ≤ lowQuarters m' e' := by
      unfold lowQuarters
      rw [pow_two_52] at hbig ⊢
      rw [pow_two_53] at hlt53
      split <;> omega
    calc ((4 * m + 2 : Nat) : ℚ) * 2 ^ (e - 2) = ((2 * m + 1 : Nat) : ℚ) * 2 ^ (e - 2 + 1) := by
          rw [zpow_add_one₀ two_ne_zero]
          push_cast
          ring
      _ ≤ (lowQuarters m' e' : ℚ) * 2 ^ (e' - 2) := by
          have hq' : ((2 * m + 1 : Nat) : ℚ) ≤ lowQuarters m' e' := by exact_mod_cast hq
          have hpow : (2 : ℚ) ^ (e - 2 + 1) ≤ 2 ^ (e' - 2) :=
            zpow_le_zpow_right₀ (by norm_num) (by omega)
          exact mul_le_mul hq' hpow (by positivity) (by positivity)
  · -- one exponent: the significands differ by one at least
    have h2 : (0 : ℚ) < 2 ^ e := by positivity
    have hm : m < m' := by exact_mod_cast lt_of_mul_lt_mul_right hlt h2.le
    have hq : 4 * m + 2 ≤ lowQuarters m' e := by
      unfold lowQuarters
      split <;> omega
    have hq' : ((4 * m + 2 : Nat) : ℚ) ≤ lowQuarters m' e := by exact_mod_cast hq
    exact mul_le_mul_of_nonneg_right hq' (by positivity)

namespace RoundsTo

variable {m m' : Nat} {e e' : Int} {r r' : ℚ}

/-- A positive ratio rounds to one word only. -/
theorem unique (hr : 0 < r) (hv : Normal m e) (hv' : Normal m' e') (h : RoundsTo m e r)
    (h' : RoundsTo m' e' r) : m = m' ∧ e = e' := by
  -- written as a fraction of naturals, the ratio is decided by `nearestParts`
  have hnum : 0 < r.num.natAbs := Int.natAbs_pos.mpr (Rat.num_pos.mpr hr).ne'
  have hfrac : (r.num.natAbs : ℚ) / r.den = r := by
    rw [Nat.cast_natAbs, Int.cast_abs, abs_of_pos (Int.cast_pos.mpr (Rat.num_pos.mpr hr)),
      Rat.num_div_den]
  rw [← hfrac] at h h'
  have h₁ := (nearestParts_eq_iff hnum r.den_pos hv).mpr h
  have h₂ := (nearestParts_eq_iff hnum r.den_pos hv').mpr h'
  exact Prod.mk.inj (h₁.symm.trans h₂)

/-- A larger ratio never rounds to a smaller word. Were the words out of order, the interval of
the larger word would end where that of the smaller begins, both ratios would sit at that end,
and a ratio rounds to one word only. -/
theorem value_le (hr : 0 < r) (hv : Normal m e) (hv' : Normal m' e') (h : RoundsTo m e r)
    (h' : RoundsTo m' e' r') (hrr : r ≤ r') : (m : ℚ) * 2 ^ e ≤ m' * 2 ^ e' := by
  by_contra hle
  have hlt := lt_of_not_ge hle
  have hgap := roundsTo_gap hv' hv hlt
  have heq : r' = r :=
    le_antisymm ((Between.le_right h').trans (hgap.trans (Between.left_le h))) hrr
  subst heq
  obtain ⟨rfl, rfl⟩ := unique hr hv hv' h h'
  exact lt_irrefl _ hlt

end RoundsTo

/-! ### Keys of words -/

/-- The signed value of a sign, significand and exponent. -/
def wordValue (neg : Bool) (m : Nat) (e : Int) : ℚ := (if neg then -(m : ℚ) else m) * 2 ^ e

@[simp] theorem wordValue_false (m : Nat) (e : Int) : wordValue false m e = m * 2 ^ e := by
  simp [wordValue]

@[simp] theorem wordValue_true (m : Nat) (e : Int) : wordValue true m e = -(m * 2 ^ e) := by
  simp [wordValue]

@[simp] theorem wordValue_zero (neg : Bool) (e : Int) : wordValue neg 0 e = 0 := by
  simp [wordValue]

/-- The place of a finite word in the float order: both zeros at one place, a negative word by
its exponent and significand backwards, a positive one forwards. -/
def wordKey (neg : Bool) (m : Nat) (e : Int) : ℤ ×ₗ ℤ ×ₗ ℤ :=
  if m = 0 then toLex (2, toLex (0, 0))
  else if neg then toLex (1, toLex (-e, -(m : ℤ))) else toLex (3, toLex (e, (m : ℤ)))

theorem key_le_of_class_lt {a a' : ℤ} {p p' : ℤ ×ₗ ℤ} (h : a < a') :
    toLex (a, p) ≤ toLex (a', p') :=
  Prod.Lex.toLex_le_toLex.mpr (.inl h)

/-- A finite float is a number, placed by its sign, significand and exponent. -/
theorem orderKey_of_finite {x : Float} {neg : Bool} {m : Nat} {e : Int}
    (h : ofFloat x = .finite neg m e) :
    Float.unpacked x ≠ .notANumber ∧
      UnpackedFloat.orderKey (Float.unpacked x) = wordKey neg m e := by
  rcases Nat.eq_zero_or_pos m with rfl | hm
  · have hx : x.toModel.unpack = _ := unpack_of_finite_zero h
    rw [Float.unpacked, hx]
    cases neg <;> exact ⟨(fun h => by cases h), rfl⟩
  · have hx : x.toModel.unpack = _ := unpack_of_finite h hm
    rw [Float.unpacked, hx]
    cases neg <;>
      exact ⟨(fun h => by cases h), by simp [UnpackedFloat.orderKey, wordKey, hm.ne']⟩

/-- Keys follow values: of two finite words, the smaller has the smaller key. -/
theorem wordKey_le {neg neg' : Bool} {m m' : Nat} {e e' : Int} (hv : Normal m e)
    (hv' : Normal m' e') (h : wordValue neg m e ≤ wordValue neg' m' e') :
    wordKey neg m e ≤ wordKey neg' m' e' := by
  unfold wordKey
  rcases Nat.eq_zero_or_pos m with rfl | hm <;> rcases Nat.eq_zero_or_pos m' with rfl | hm'
  · exact le_rfl
  · -- a zero lies below the positive words, and no negative word lies above it
    have hpos : (0 : ℚ) < m' * 2 ^ e' := by positivity
    rw [if_pos rfl, if_neg hm'.ne']
    cases neg'
    · exact key_le_of_class_lt (by norm_num)
    · rw [wordValue_zero, wordValue_true] at h
      linarith
  · -- a negative word lies below a zero, and no positive word does
    have hpos : (0 : ℚ) < m * 2 ^ e := by positivity
    rw [if_neg hm.ne', if_pos rfl]
    cases neg
    · rw [wordValue_zero, wordValue_false] at h
      linarith
    · exact key_le_of_class_lt (by norm_num)
  · have hpos : (0 : ℚ) < m * 2 ^ e := by positivity
    have hpos' : (0 : ℚ) < m' * 2 ^ e' := by positivity
    rw [if_neg hm.ne', if_neg hm'.ne']
    cases neg <;> cases neg' <;>
      simp only [wordValue_false, wordValue_true, if_false, if_true, Bool.false_eq_true] at h ⊢
    · -- two positive words: their values order them
      exact Prod.Lex.toLex_le_toLex.mpr (.inr ⟨rfl, hv.lex_le_of_value_le hv' h⟩)
    · linarith
    · exact key_le_of_class_lt (by norm_num)
    · -- two negative words: their magnitudes order them the other way
      have hlex := Prod.Lex.toLex_le_toLex.mp (hv'.lex_le_of_value_le hv (by linarith))
      refine Prod.Lex.toLex_le_toLex.mpr (.inr ⟨rfl, Prod.Lex.toLex_le_toLex.mpr ?_⟩)
      dsimp only at hlex ⊢
      omega

namespace Normal

variable {m : Nat} {e : Int}

theorem pos_of_overflow (hv : Normal m e) (he : maxExponent < e) : 0 < m :=
  lt_of_lt_of_le (by decide) (hv.norm.resolve_right (ne_of_gt (lt_trans (by decide) he)))

end Normal

/-- The place in the float order of the float that a sign and rounded parts make: an infinity
past the largest exponent, the word itself up to it. -/
def partsKey (neg : Bool) (m : Nat) (e : Int) : ℤ ×ₗ ℤ ×ₗ ℤ :=
  if maxExponent < e then (if neg then toLex (0, toLex (0, 0)) else toLex (4, toLex (0, 0)))
  else wordKey neg m e

theorem wordKey_bounds (neg : Bool) (m : Nat) (e : Int) :
    toLex (0, toLex (0, 0)) ≤ wordKey neg m e ∧
      wordKey neg m e ≤ toLex (4, toLex (0, 0)) := by
  -- a finite word is of class 1, 2 or 3, between the infinities of classes 0 and 4
  unfold wordKey
  split_ifs <;> exact ⟨key_le_of_class_lt (by norm_num), key_le_of_class_lt (by norm_num)⟩

/-- Keys with the infinities follow values too. A word past the largest exponent lies beyond
every smaller word of its sign, so when one of two words in order overflows, either it is on
the far side of the other or the other overflows with it. -/
theorem partsKey_le {neg neg' : Bool} {m m' : Nat} {e e' : Int} (hv : Normal m e)
    (hv' : Normal m' e') (h : wordValue neg m e ≤ wordValue neg' m' e') :
    partsKey neg m e ≤ partsKey neg' m' e' := by
  have hp : (0 : ℚ) ≤ m * 2 ^ e := by positivity
  have hp' : (0 : ℚ) ≤ m' * 2 ^ e' := by positivity
  unfold partsKey
  by_cases ho : maxExponent < e <;> by_cases ho' : maxExponent < e'
  · -- both infinite: a positive one has only positive words above it
    have hpos : (0 : ℚ) < m * 2 ^ e := by have := hv.pos_of_overflow ho; positivity
    have hpos' : (0 : ℚ) < m' * 2 ^ e' := by have := hv'.pos_of_overflow ho'; positivity
    rw [if_pos ho, if_pos ho']
    cases neg <;> cases neg'
    · exact le_rfl
    · rw [wordValue_false, wordValue_true] at h
      linarith
    · exact key_le_of_class_lt (by norm_num)
    · exact le_rfl
  · -- the first overflows and the second does not: it is the negative infinity
    have hpos : (0 : ℚ) < m * 2 ^ e := by have := hv.pos_of_overflow ho; positivity
    rw [if_pos ho, if_neg ho']
    cases neg
    · -- a positive word past the range has no finite word above it
      have hle : (m : ℚ) * 2 ^ e ≤ m' * 2 ^ e' := by
        cases neg' <;> simp only [wordValue_false, wordValue_true] at h <;> linarith
      exact absurd (lt_of_lt_of_le ho (hv.exponent_le_of_value_le hv' hle)) ho'
    · exact (wordKey_bounds _ _ _).1
  · -- the second overflows and the first does not: it is the positive infinity
    have hpos' : (0 : ℚ) < m' * 2 ^ e' := by have := hv'.pos_of_overflow ho'; positivity
    rw [if_neg ho, if_pos ho']
    cases neg'
    · exact (wordKey_bounds _ _ _).2
    · -- a negative word past the range has no finite word below it
      have hle : (m' : ℚ) * 2 ^ e' ≤ m * 2 ^ e := by
        cases neg <;> simp only [wordValue_false, wordValue_true] at h <;> linarith
      exact absurd (lt_of_lt_of_le ho' (hv'.exponent_le_of_value_le hv hle)) ho
  · rw [if_neg ho, if_neg ho']
    exact wordKey_le hv hv' h

/-! ### The float nearest to a rational -/

/-- The significand and exponent that the magnitude of a rational rounds to; the zero word for
zero. -/
def roundParts (q : ℚ) : Nat × Int :=
  if q = 0 then (0, minExponent) else nearestParts q.num.natAbs q.den

/-- The float nearest to a rational, a tie going to the even word: an infinity when the
magnitude rounds past the largest exponent, and positive zero for zero. -/
def ofRat (q : ℚ) : Float := nearest (decide (q < 0)) q.num.natAbs q.den

theorem abs_eq_natAbs_div (q : ℚ) : |q| = (q.num.natAbs : ℚ) / q.den := by
  conv_lhs => rw [← Rat.num_div_den q]
  rw [abs_div, Nat.abs_cast, Nat.cast_natAbs, Int.cast_abs]

theorem normal_roundParts (q : ℚ) : Normal (roundParts q).1 (roundParts q).2 := by
  unfold roundParts
  split
  · exact ⟨by rw [pow_two_53]; omega, le_rfl, .inr rfl⟩
  · rename_i hq
    exact (roundsTo_nearestParts (Int.natAbs_pos.mpr (Rat.num_ne_zero.mpr hq)) q.den_pos).1

theorem roundsTo_roundParts {q : ℚ} (hq : q ≠ 0) :
    RoundsTo (roundParts q).1 (roundParts q).2 |q| := by
  rw [roundParts, if_neg hq, abs_eq_natAbs_div]
  exact (roundsTo_nearestParts (Int.natAbs_pos.mpr (Rat.num_ne_zero.mpr hq)) q.den_pos).2

/-- The float of a rational is the infinity of its sign or the word of its rounded parts. -/
theorem ofRat_eq (q : ℚ) : ofRat q =
    if maxExponent < (roundParts q).2 then infinity (decide (q < 0))
    else assemble (decide (q < 0)) (roundParts q).1 (roundParts q).2 := by
  unfold ofRat nearest roundParts
  by_cases hq : q = 0
  · subst hq
    rfl
  · rw [if_neg (Int.natAbs_ne_zero.mpr (Rat.num_ne_zero.mpr hq)), if_neg q.den_ne_zero, if_neg hq]

/-- The float of a rational is a number, with the key of its sign and rounded parts. -/
theorem orderKey_ofRat (q : ℚ) : Float.unpacked (ofRat q) ≠ .notANumber ∧
    UnpackedFloat.orderKey (Float.unpacked (ofRat q)) =
      partsKey (decide (q < 0)) (roundParts q).1 (roundParts q).2 := by
  have hv := normal_roundParts q
  rw [ofRat_eq, partsKey]
  by_cases ho : maxExponent < (roundParts q).2
  · rw [if_pos ho, if_pos ho]
    cases decide (q < 0)
    · have hx : Float.unpacked (infinity false) = .infinity .positive := rfl
      rw [hx]
      exact ⟨(fun h => by cases h), rfl⟩
    · have hx : Float.unpacked (infinity true) = .infinity .negative := rfl
      rw [hx]
      exact ⟨(fun h => by cases h), rfl⟩
  · rw [if_neg ho, if_neg ho]
    exact orderKey_of_finite (ofFloat_assemble hv.lt hv.norm hv.low (not_lt.mp ho))

/-- Rounding keeps the order of signed values: of two rationals in order, the magnitude of the
larger negative one or of the larger positive one rounds to the larger word. -/
theorem wordValue_roundParts_le {q q' : ℚ} (h : q ≤ q') :
    wordValue (decide (q < 0)) (roundParts q).1 (roundParts q).2 ≤
      wordValue (decide (q' < 0)) (roundParts q').1 (roundParts q').2 := by
  have hv := normal_roundParts q
  have hv' := normal_roundParts q'
  have hp : (0 : ℚ) ≤ (roundParts q).1 * 2 ^ (roundParts q).2 := by positivity
  have hp' : (0 : ℚ) ≤ (roundParts q').1 * 2 ^ (roundParts q').2 := by positivity
  rcases lt_trichotomy q 0 with hneg | rfl | hpos
  · rcases lt_or_ge q' 0 with hneg' | hnn'
    · -- two negatives: the larger magnitude is the smaller rational
      have hle := RoundsTo.value_le (abs_pos.mpr hneg'.ne) hv' hv (roundsTo_roundParts hneg'.ne)
        (roundsTo_roundParts hneg.ne) (by rw [abs_of_neg hneg, abs_of_neg hneg']; linarith)
      rw [decide_eq_true hneg, decide_eq_true hneg', wordValue_true, wordValue_true]
      linarith
    · rw [decide_eq_true hneg, decide_eq_false (not_lt.mpr hnn'), wordValue_true, wordValue_false]
      linarith
  · -- zero rounds to the zero word
    simp only [roundParts, if_true, wordValue_zero, decide_eq_false (not_lt.mpr h),
      wordValue_false]
    exact hp'
  · have hpos' := lt_of_lt_of_le hpos h
    have hle := RoundsTo.value_le (abs_pos.mpr hpos.ne') hv hv' (roundsTo_roundParts hpos.ne')
      (roundsTo_roundParts hpos'.ne') (by rw [abs_of_pos hpos, abs_of_pos hpos']; exact h)
    rw [decide_eq_false (not_lt.mpr hpos.le), decide_eq_false (not_lt.mpr hpos'.le),
      wordValue_false, wordValue_false]
    exact hle

/-- Rounding a rational to the nearest float keeps order. -/
theorem ofRat_le_ofRat {q q' : ℚ} (h : q ≤ q') : ofRat q ≤ ofRat q' := by
  obtain ⟨hn, hk⟩ := orderKey_ofRat q
  obtain ⟨hn', hk'⟩ := orderKey_ofRat q'
  rw [Float.le_iff_key, hk, hk']
  exact ⟨hn, hn', partsKey_le (normal_roundParts q) (normal_roundParts q')
    (wordValue_roundParts_le h)⟩

end Binary64

namespace Decimal

open Float.Model Binary64

theorem toFloat_eq_ofRat (D : Decimal) : D.toFloat = ofRat D.value := by
  obtain ⟨num, den, hden, hr, hD⟩ := D.toFloat_eq
  rw [hD, ofRat, nearest_congr _ hden D.value.den_pos (by rw [hr, abs_eq_natAbs_div])]

/-- The float of a decimal is never NaN. -/
theorem toFloat_isNaN (D : Decimal) : D.toFloat.isNaN = false := by
  rw [Float.isNaN_eq_false_iff, toFloat_eq_ofRat]
  exact (orderKey_ofRat _).1

/-- A finite float and the float of its decimal have one place in the float order. -/
theorem orderKey_toFloat_ofFloat {x : Float} {d : Decimal} (h : Decimal.ofFloat x = .ok d) :
    Float.unpacked x ≠ .notANumber ∧
      UnpackedFloat.orderKey (Float.unpacked (ofRat d.value)) =
        UnpackedFloat.orderKey (Float.unpacked x) := by
  unfold Decimal.ofFloat at h
  rcases hx : Binary64.ofFloat x with _ | neg | ⟨neg, m, e⟩ <;> rw [hx] at h
  · cases h
  · cases h
  · obtain ⟨hnan, hkey⟩ := orderKey_of_finite hx
    refine ⟨hnan, ?_⟩
    rw [hkey]
    dsimp only at h
    split at h
    · -- a zero float has the zero decimal, whose float is positive zero
      rename_i hm
      cases h
      subst hm
      rw [(orderKey_ofRat _).2, show zero.value = 0 by simp [value, zero]]
      simp [partsKey, roundParts, wordKey, minExponent, maxExponent]
    · -- otherwise the decimal's float is the float itself, rebuilt from its parts
      rename_i hm
      cases h
      obtain ⟨hv, he⟩ := ofFloat_normal hx
      rw [← toFloat_eq_ofRat]
      have hfloat : (ofDigits neg (shortest m e)).toFloat = assemble neg m e :=
        toFloat_ofDigits_shortest hv he (Nat.pos_of_ne_zero hm)
      rw [ofDigits] at hfloat
      rw [hfloat]
      exact (orderKey_of_finite (Binary64.ofFloat_assemble hv.lt hv.norm hv.low he)).2

/-- A finite float lies at or below the float of any rational at or above its decimal's
value. -/
theorem le_ofRat_of_ofFloat {x : Float} {d : Decimal} (h : Decimal.ofFloat x = .ok d) {q : ℚ}
    (hq : d.value ≤ q) : x ≤ ofRat q := by
  obtain ⟨hnan, hkey⟩ := orderKey_toFloat_ofFloat h
  have hle := Float.le_iff_key.mp (ofRat_le_ofRat hq)
  rw [hkey] at hle
  exact Float.le_iff_key.mpr ⟨hnan, hle.2.1, hle.2.2⟩

/-- A finite float lies at or above the float of any rational at or below its decimal's
value. -/
theorem ofRat_le_of_ofFloat {x : Float} {d : Decimal} (h : Decimal.ofFloat x = .ok d) {q : ℚ}
    (hq : q ≤ d.value) : ofRat q ≤ x := by
  obtain ⟨hnan, hkey⟩ := orderKey_toFloat_ofFloat h
  have hle := Float.le_iff_key.mp (ofRat_le_ofRat hq)
  rw [hkey] at hle
  exact Float.le_iff_key.mpr ⟨hle.1, hnan, hle.2.2⟩

end Decimal

end TradeLedger
