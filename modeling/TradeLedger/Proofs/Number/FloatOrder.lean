import Mathlib
/-!
# The order of floats

The runtime compares floats by unpacking both words into `UnpackedFloat.compare`: NaN compares
with nothing, the zeros are equal, and numbers compare by class (negative infinity, negative,
zero, positive, positive infinity), then by exponent and mantissa, backwards for a negative
word. Off NaN this is the lexicographic order of a key, and what a comparison with a float field
needs follows from it.

## Main definitions

* `UnpackedFloat.orderKey`: the place of a word that is not NaN in the float order.

## Theorems

* `Float.lt_iff_key`, `Float.le_iff_key`: `<` and `≤` are those of the keys of two numbers.
* `Float.lt_trans`, `Float.beq_trans`: `<` and `==` are transitive.
* `Float.lt_or_gt_of_beq_false`, `Float.le_of_not_lt`: two numbers are ordered.
-/

namespace TradeLedger

open Float.Model UnpackedFloat

namespace UnpackedFloat

/-- The place of a word that is not NaN in the float order. -/
def orderKey : UnpackedFloat → ℤ ×ₗ ℤ ×ₗ ℤ
  | .infinity .negative => toLex (0, toLex (0, 0))
  | .finite .negative m e _ => toLex (1, toLex (-e, -(m : ℤ)))
  | .zero _ => toLex (2, toLex (0, 0))
  | .finite .positive m e _ => toLex (3, toLex (e, (m : ℤ)))
  | .infinity .positive => toLex (4, toLex (0, 0))
  | .notANumber => toLex (0, toLex (0, 0))

theorem compare_toLex (a b c a' b' c' : ℤ) :
    compare (toLex (a, toLex (b, c))) (toLex (a', toLex (b', c'))) =
      (compare a a').then ((compare b b').then (compare c c')) := rfl

theorem compare_neg (a b : ℤ) : compare (-a) (-b) = compare b a := by
  rcases lt_trichotomy a b with h | rfl | h
  · rw [Int.compare_eq_gt.2 (by omega), Int.compare_eq_gt.2 h]
  · rw [Int.compare_eq_eq.2 rfl, Int.compare_eq_eq.2 rfl]
  · rw [Int.compare_eq_lt.2 (by omega), Int.compare_eq_lt.2 h]

theorem compare_natCast (a b : ℕ) : compare (a : ℤ) (b : ℤ) = compare a b := by
  rcases Nat.lt_trichotomy a b with h | rfl | h
  · rw [Int.compare_eq_lt.2 (by omega), Nat.compare_eq_lt.2 h]
  · rw [Int.compare_eq_eq.2 rfl, Nat.compare_eq_eq.2 rfl]
  · rw [Int.compare_eq_gt.2 (by omega), Nat.compare_eq_gt.2 h]

/-- Two words that are not NaN compare as their keys do. -/
theorem compare_eq_orderKey {a b : UnpackedFloat} (ha : a ≠ .notANumber)
    (hb : b ≠ .notANumber) : a.compare b = some (compare (orderKey a) (orderKey b)) := by
  rcases a with ⟨_ | _⟩ | _ | ⟨_ | _⟩ | ⟨_ | _, m, e, hm⟩ <;>
    rcases b with ⟨_ | _⟩ | _ | ⟨_ | _⟩ | ⟨_ | _, m', e', hm'⟩ <;>
    simp_all [UnpackedFloat.compare, orderKey, compare_toLex, compare_neg, compare_natCast,
      Ordering.swap_then, Int.compare_swap, Nat.compare_swap] <;>
    rfl

theorem compare_notANumber_left (b : UnpackedFloat) : notANumber.compare b = none := rfl

theorem compare_notANumber_right (a : UnpackedFloat) : a.compare notANumber = none := by
  cases a <;> rfl

/-- A comparison answers exactly when neither side is NaN, and then it answers as the keys do. -/
theorem compare_eq_some {a b : UnpackedFloat} {o : Ordering} :
    a.compare b = some o ↔ a ≠ .notANumber ∧ b ≠ .notANumber ∧ compare (orderKey a) (orderKey b) = o := by
  constructor
  · intro h
    have ha : a ≠ .notANumber := by
      rintro rfl
      cases h
    have hb : b ≠ .notANumber := by
      rintro rfl
      rw [compare_notANumber_right] at h
      cases h
    rw [compare_eq_orderKey ha hb, Option.some.injEq] at h
    exact ⟨ha, hb, h⟩
  · rintro ⟨ha, hb, rfl⟩
    exact compare_eq_orderKey ha hb

end UnpackedFloat

namespace Float

variable {x y z : Float}

/-- The word a float unpacks to. -/
abbrev unpacked (x : Float) : UnpackedFloat := x.toModel.unpack

theorem lt_iff_compare : x < y ↔ (unpacked x).compare (unpacked y) = some .lt := by
  show Float.lt x y = true ↔ _
  simp [Float.lt, LT.lt, Float.Model.lt, UnpackedFloat.lt]

theorem beq_iff_compare : (x == y) = true ↔ (unpacked x).compare (unpacked y) = some .eq := by
  show (unpacked x).beq (unpacked y) = true ↔ _
  simp [UnpackedFloat.beq]

theorem le_iff_compare : x ≤ y ↔ ((unpacked x).compare (unpacked y)).any (·.isLE) = true := by
  show decide (x.toModel.unpack.le y.toModel.unpack = true) = true ↔ _
  rw [decide_eq_true_iff]
  rfl

theorem isNaN_eq_false_iff : x.isNaN = false ↔ unpacked x ≠ .notANumber := by
  show (unpacked x).isNaN = false ↔ _
  cases unpacked x <;> simp [UnpackedFloat.isNaN]

/-- `<` on floats is `<` on the keys of two numbers. -/
theorem lt_iff_key : x < y ↔ unpacked x ≠ .notANumber ∧ unpacked y ≠ .notANumber ∧
    UnpackedFloat.orderKey (unpacked x) < UnpackedFloat.orderKey (unpacked y) := by
  rw [lt_iff_compare, UnpackedFloat.compare_eq_some, compare_lt_iff_lt]

theorem beq_iff_key : (x == y) = true ↔ unpacked x ≠ .notANumber ∧ unpacked y ≠ .notANumber ∧
    UnpackedFloat.orderKey (unpacked x) = UnpackedFloat.orderKey (unpacked y) := by
  rw [beq_iff_compare, UnpackedFloat.compare_eq_some, compare_eq_iff_eq]

theorem le_iff_key : x ≤ y ↔ unpacked x ≠ .notANumber ∧ unpacked y ≠ .notANumber ∧
    UnpackedFloat.orderKey (unpacked x) ≤ UnpackedFloat.orderKey (unpacked y) := by
  rw [le_iff_compare]
  by_cases hx : unpacked x = .notANumber
  · rw [hx, UnpackedFloat.compare_notANumber_left]
    simp
  by_cases hy : unpacked y = .notANumber
  · rw [hy, UnpackedFloat.compare_notANumber_right]
    simp
  rw [UnpackedFloat.compare_eq_orderKey hx hy]
  simp [hx, hy, Ordering.isLE_iff_ne_gt, compare_gt_iff_gt]

theorem lt_irrefl (x : Float) : ¬ x < x := by
  rw [lt_iff_key]
  exact fun ⟨_, _, h⟩ => h.ne rfl

theorem lt_trans (hxy : x < y) (hyz : y < z) : x < z := by
  obtain ⟨hx, -, h₁⟩ := lt_iff_key.1 hxy
  obtain ⟨-, hz, h₂⟩ := lt_iff_key.1 hyz
  exact lt_iff_key.2 ⟨hx, hz, h₁.trans h₂⟩

theorem lt_of_beq_of_lt (hxy : (x == y) = true) (hyz : y < z) : x < z := by
  obtain ⟨hx, -, h₁⟩ := beq_iff_key.1 hxy
  obtain ⟨-, hz, h₂⟩ := lt_iff_key.1 hyz
  exact lt_iff_key.2 ⟨hx, hz, h₁ ▸ h₂⟩

theorem lt_of_lt_of_beq (hxy : x < y) (hyz : (y == z) = true) : x < z := by
  obtain ⟨hx, -, h₁⟩ := lt_iff_key.1 hxy
  obtain ⟨-, hz, h₂⟩ := beq_iff_key.1 hyz
  exact lt_iff_key.2 ⟨hx, hz, h₂ ▸ h₁⟩

theorem beq_comm (x y : Float) : (x == y) = (y == x) := by
  apply Bool.eq_iff_iff.2
  rw [beq_iff_key, beq_iff_key]
  exact ⟨fun ⟨hx, hy, h⟩ => ⟨hy, hx, h.symm⟩, fun ⟨hy, hx, h⟩ => ⟨hx, hy, h.symm⟩⟩

theorem beq_trans (hxy : (x == y) = true) (hyz : (y == z) = true) : (x == z) = true := by
  obtain ⟨hx, -, h₁⟩ := beq_iff_key.1 hxy
  obtain ⟨-, hz, h₂⟩ := beq_iff_key.1 hyz
  exact beq_iff_key.2 ⟨hx, hz, h₁.trans h₂⟩

theorem beq_false_of_lt (h : x < y) : (x == y) = false := by
  obtain ⟨-, -, hlt⟩ := lt_iff_key.1 h
  rw [Bool.eq_false_iff, ne_eq, beq_iff_key]
  exact fun ⟨_, _, heq⟩ => ne_of_lt hlt heq

/-- Two floats that are numbers and not `==` are ordered one way or the other. -/
theorem lt_or_gt_of_beq_false (hx : x.isNaN = false) (hy : y.isNaN = false)
    (h : (x == y) = false) : x < y ∨ y < x := by
  rw [isNaN_eq_false_iff] at hx hy
  have hne : UnpackedFloat.orderKey (unpacked x) ≠ UnpackedFloat.orderKey (unpacked y) := fun heq => by
    rw [Bool.eq_false_iff, ne_eq, beq_iff_key] at h
    exact h ⟨hx, hy, heq⟩
  rcases lt_or_gt_of_ne hne with hlt | hgt
  · exact .inl (lt_iff_key.2 ⟨hx, hy, hlt⟩)
  · exact .inr (lt_iff_key.2 ⟨hy, hx, hgt⟩)

/-- Two numbers are ordered one way or the other: what `<` refuses, `≤` grants the other way. -/
theorem le_of_not_lt (hx : x.isNaN = false) (hy : y.isNaN = false) (h : ¬ x < y) : y ≤ x := by
  rw [isNaN_eq_false_iff] at hx hy
  rw [lt_iff_key] at h
  exact le_iff_key.2 ⟨hy, hx, not_lt.1 fun hlt => h ⟨hx, hy, hlt⟩⟩

theorem lt_of_not_le (hx : x.isNaN = false) (hy : y.isNaN = false) (h : ¬ x ≤ y) : y < x := by
  rw [isNaN_eq_false_iff] at hx hy
  rw [le_iff_key] at h
  exact lt_iff_key.2 ⟨hy, hx, not_le.1 fun hle => h ⟨hx, hy, hle⟩⟩

end Float

end TradeLedger
