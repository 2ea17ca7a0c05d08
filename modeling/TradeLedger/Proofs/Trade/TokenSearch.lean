import TradeLedger.Trade.Resolve
/-!
# Searching a payload for an id as a whole token

The search loop `searchFrom` restarts one byte after the start of each rejected occurrence, so an
occurrence overlapping it is still seen: `a a` stands alone in `xa a a` at its second place
only. Every round moves the offset forward, so the loop ends.

## Main definitions

* `WholeTokenAt`: the id stands as a whole token at an offset.

## Theorems

* `searchFrom_eq_true_iff`: the loop finds exactly the offsets of whole tokens.
* `containsId_iff_wholeToken`: the search finds an id exactly when it is a whole token.
-/

namespace TradeLedger

/-- `id` stands in `raw` at byte `i` as a whole token: the bytes from `i` spell `id`, and the
byte before them and the byte after them, where there is one, is no id character. -/
structure WholeTokenAt (raw id : List UInt8) (i : Nat) : Prop where
  spells : raw.extract i (i + id.length) = id
  left : i = 0 ∨ ∃ b, raw[i - 1]? = some b ∧ isIdChar b = false
  right : i + id.length = raw.length ∨ ∃ b, raw[i + id.length]? = some b ∧ isIdChar b = false

theorem extract_eq_iff_prefix_drop {raw id : List UInt8} {i : Nat} :
    raw.extract i (i + id.length) = id ↔ id <+: raw.drop i := by
  rw [List.extract_eq_take_drop, Nat.add_sub_cancel_left, List.prefix_iff_eq_take, eq_comm]

section Search

variable {raw id : List UInt8} {start i : Nat}

/-- A search from `start` finds the first occurrence at or after `start`. -/
theorem firstIndex?_drop_eq_some (h : firstIndex? id (raw.drop start) = some i) :
    id <+: raw.drop (start + i) ∧ ∀ j, start ≤ j → j < start + i → ¬ id <+: raw.drop j := by
  obtain ⟨-, hocc, hfirst⟩ := firstIndex?_eq_some h
  refine ⟨by rwa [List.drop_drop] at hocc, fun j hj hlt => ?_⟩
  have := hfirst (j - start) (by omega)
  rwa [List.drop_drop, Nat.add_sub_cancel' hj] at this

theorem firstIndex?_drop_eq_none (h : firstIndex? id (raw.drop start) = none) {j : Nat}
    (hj : start ≤ j) : ¬ id <+: raw.drop j := by
  have := firstIndex?_eq_none h (j - start)
  rwa [List.drop_drop, Nat.add_sub_cancel' hj] at this

/-- The loop from `start` succeeds exactly when the id stands as a whole token at or after
`start`. -/
theorem searchFrom_eq_true_iff {hid : id ≠ []} {hs : start ≤ raw.length} :
    searchFrom raw id hid start hs = true ↔ ∃ i, start ≤ i ∧ WholeTokenAt raw id i := by
  fun_induction searchFrom raw id hid start hs with
  | case1 start hs h =>
    -- no occurrence from `start` on, so no whole token either
    simp only [Bool.false_eq_true, false_iff, not_exists, not_and]
    intro i hi hw
    exact firstIndex?_drop_eq_none h hi (extract_eq_iff_prefix_drop.1 hw.spells)
  | case2 start hs i h hfit hpos hok =>
    -- the first occurrence stands alone
    obtain ⟨hleft, hright⟩ := standsAlone_iff.1 hok
    exact iff_of_true rfl ⟨start + i, Nat.le_add_right _ _,
      ⟨extract_eq_iff_prefix_drop.2 (firstIndex?_drop_eq_some h).1, hleft, hright⟩⟩
  | case3 start hs i h hfit hpos hrej ih =>
    rw [ih]
    constructor
    · rintro ⟨j, hj, hw⟩
      exact ⟨j, by omega, hw⟩
    · rintro ⟨j, hj, hw⟩
      refine ⟨j, ?_, hw⟩
      -- nothing occurs between `start` and the occurrence found, and that one was rejected
      have hocc := extract_eq_iff_prefix_drop.1 hw.spells
      rcases Nat.lt_trichotomy j (start + i) with hlt | rfl | hgt
      · exact absurd hocc ((firstIndex?_drop_eq_some h).2 j hj hlt)
      · exact absurd (standsAlone_iff.2 ⟨hw.left, hw.right⟩) hrej
      · omega

end Search

theorem containsId_iff_wholeToken (raw id : String) :
    containsId raw id = true ↔
      id ≠ "" ∧ ∃ i, WholeTokenAt (Utf8.encode raw) (Utf8.encode id) i := by
  by_cases h : id = ""
  · -- the empty id is refused before the search starts
    simp [containsId, h]
  · rw [containsId, dif_neg h, searchFrom_eq_true_iff]
    simp [h]

example : containsId "xa a a" "a a" = true := by decide +kernel

end TradeLedger
