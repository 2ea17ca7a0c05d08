import TradeLedger.Text.Case
import Mathlib.Data.List.Chain
import Mathlib.Tactic.SplitIfs
/-!
# The upper-case table

Symbols are compared in upper case: a cooldown, a snapshot group and a conflict check all file a
symbol under `String.toUpperSimple` of it, and a cooldown entry files the upper case of the
upper-cased symbol again. The table is a list of sorted runs, and a character the table moves
lands either in ASCII below `a`, where nothing moves it again, or on a character no run holds,
as the image of one run misses every other run.

## Main definitions

* `missesAll`: the image of a run misses the characters of the runs checked against it.

## Theorems

* `upperRuns_images_apart`: the image of each run misses every other run.
* `String.toUpperSimple_toUpperSimple`: upper case is idempotent.
* `String.colon_mem_of_toUpperSimple`: only `:` has `:` as its upper case.
-/

namespace TradeLedger

theorem findCaseRun_some {n : Nat} {runs : List CaseRun} {r : CaseRun}
    (h : findCaseRun n runs = some r) :
    r ∈ runs ∧ r.lo ≤ n ∧ n ≤ r.hi ∧ (n - r.lo) % r.step = 0 := by
  induction runs with
  | nil => cases h
  | cons s rest ih =>
    unfold findCaseRun at h
    split at h
    · cases h
    · split at h
      · rename_i hlo hin
        cases h
        exact ⟨List.mem_cons_self .., by omega, hin.1, hin.2⟩
      · obtain ⟨hmem, hrest⟩ := ih h
        exact ⟨List.mem_cons_of_mem _ hmem, hrest⟩

namespace CaseRun

/-- The image of `r` misses the characters of `s`: their ranges are apart, or `s` steps by two
and the image, stepping by two or a single character, starts at the other parity. -/
def missesDomain (r s : CaseRun) : Bool :=
  r.hi + r.delta < (s.lo : Int) || (s.hi : Int) < r.lo + r.delta ||
    (s.step == 2 && (r.step == 2 || r.lo == r.hi) && (r.lo + r.delta - s.lo) % 2 == 1)

/-- `missesDomain` against runs in increasing order of their starts, stopping past the image. -/
def missesAll (r : CaseRun) : List CaseRun → Bool
  | [] => true
  | s :: rest => if r.hi + r.delta < (s.lo : Int) then true else r.missesDomain s && r.missesAll rest

theorem missesDomain_of_missesAll {r : CaseRun} {runs : List CaseRun}
    (hsorted : runs.IsChain fun a b => a.lo ≤ b.lo) (h : r.missesAll runs = true) :
    ∀ s ∈ runs, r.missesDomain s = true := by
  induction runs with
  | nil => intro s hs; cases hs
  | cons s₀ rest ih =>
    intro s hs
    unfold missesAll at h
    split at h
    · -- the image ends below `s₀`, so below every later run
      rename_i hbelow
      have hle : s₀.lo ≤ s.lo := by
        rcases List.mem_cons.1 hs with rfl | hs
        · exact le_refl _
        · exact List.rel_of_pairwise_cons (hsorted.pairwise) hs
      simp only [missesDomain, Bool.or_eq_true, decide_eq_true_eq]
      left; left; omega
    · rw [Bool.and_eq_true] at h
      rcases List.mem_cons.1 hs with rfl | hs
      · exact h.1
      · exact ih hsorted.tail h.2 s hs

theorem not_mem_of_missesDomain {r s : CaseRun} (h : r.missesDomain s = true) {n : Nat}
    (hn : r.lo ≤ n ∧ n ≤ r.hi ∧ (n - r.lo) % r.step = 0) {m : Nat} (hm : (m : Int) = n + r.delta)
    (hs : s.lo ≤ m ∧ m ≤ s.hi ∧ (m - s.lo) % s.step = 0) : False := by
  simp only [missesDomain, Bool.or_eq_true, Bool.and_eq_true, beq_iff_eq, decide_eq_true_eq] at h
  obtain ⟨hlo, hhi, hstep⟩ := hn
  obtain ⟨hslo, hshi, hsstep⟩ := hs
  rcases h with (h | h) | ⟨⟨hs2, hr⟩, hpar⟩
  · omega
  · omega
  · rw [hs2] at hsstep
    rcases hr with hr2 | hsingle
    · rw [hr2] at hstep
      omega
    · omega

end CaseRun

theorem upperRuns_sorted : upperRuns.IsChain fun a b => a.lo ≤ b.lo := by
  decide +kernel

theorem upperRuns_images_apart : upperRuns.all (fun r => r.missesAll upperRuns) = true := by
  decide +kernel

theorem upperRuns_images : upperRuns.all (fun r =>
    decide (65 ≤ (r.lo : Int) + r.delta) && (decide ((r.hi : Int) + r.delta < 97) ||
      decide (128 ≤ (r.lo : Int) + r.delta))) = true := by
  decide +kernel


/-! ### Characters -/

theorem Char.toNat_toUpper (c : Char) :
    c.toUpper.toNat = if 97 ≤ c.toNat ∧ c.toNat ≤ 122 then c.toNat - 32 else c.toNat := by
  unfold Char.toUpper
  split
  · rename_i h
    have h' : 97 ≤ c.toNat ∧ c.toNat ≤ 122 := by
      simp only [Char.toNat, UInt32.le_iff_toNat_le] at h ⊢
      exact h
    rw [if_pos h']
    simp only [Char.toNat]
    rw [UInt32.toNat_add]
    -- `'A' - 'a'` wraps around to `2 ^ 32 - 32`
    have hshift : ('A'.val - 'a'.val).toNat = 4294967264 := by decide
    rw [hshift]
    simp only [Char.toNat] at h'
    omega
  · rename_i h
    have h' : ¬ (97 ≤ c.toNat ∧ c.toNat ≤ 122) := by
      simp only [Char.toNat, UInt32.le_iff_toNat_le] at h ⊢
      exact h
    rw [if_neg h']

theorem Char.toNat_ofNat_eq (m : Nat) : (Char.ofNat m).toNat = if m.isValidChar then m else 0 := by
  by_cases h : m.isValidChar
  · rw [if_pos h, Char.ofNat, dif_pos h]
    rfl
  · rw [if_neg h, Char.ofNat, dif_neg h]
    rfl

theorem Char.toUpper_toUpper (c : Char) : c.toUpper.toUpper = c.toUpper := by
  rw [← Char.toNat_inj, Char.toNat_toUpper, Char.toNat_toUpper]
  split_ifs <;> omega

theorem Char.toUpper_of_lt {c : Char} (h : c.toNat < 97) : c.toUpper = c := by
  rw [← Char.toNat_inj, Char.toNat_toUpper, if_neg (by omega)]

/-- What the upper case of a character is, by the three branches of the table. -/
theorem Char.toUpperSimple_cases (c : Char) :
    (c.toNat < 128 ∧ Char.toUpperSimple c = c.toUpper) ∨
    (128 ≤ c.toNat ∧ Char.toUpperSimple c = c) ∨
    (∃ r ∈ upperRuns, 128 ≤ c.toNat ∧ r.lo ≤ c.toNat ∧ c.toNat ≤ r.hi ∧
      (c.toNat - r.lo) % r.step = 0 ∧
      Char.toUpperSimple c = Char.ofNat (((c.toNat : Int) + r.delta).toNat)) := by
  unfold Char.toUpperSimple
  split
  · exact Or.inl ⟨‹_›, rfl⟩
  · rename_i hbig
    split
    · rename_i r hr
      obtain ⟨hmem, hlo, hhi, hstep⟩ := findCaseRun_some hr
      exact Or.inr (Or.inr ⟨r, hmem, by omega, hlo, hhi, hstep, rfl⟩)
    · exact Or.inr (Or.inl ⟨by omega, rfl⟩)

/-- Where the table moves a character: at least to `A`, and either below `a` or out of ASCII. -/
theorem upperRuns_image_bounds {r : CaseRun} (hr : r ∈ upperRuns) :
    65 ≤ (r.lo : Int) + r.delta ∧ ((r.hi : Int) + r.delta < 97 ∨ 128 ≤ (r.lo : Int) + r.delta) := by
  have h := List.all_eq_true.1 upperRuns_images r hr
  simp only [Bool.and_eq_true, Bool.or_eq_true, decide_eq_true_eq] at h
  exact h

/-- A character the table moves lands on none that it moves again. -/
theorem upperRuns_image_not_mem {r s : CaseRun} (hr : r ∈ upperRuns) (hs : s ∈ upperRuns)
    {n m : Nat} (hn : r.lo ≤ n ∧ n ≤ r.hi ∧ (n - r.lo) % r.step = 0)
    (hm : (m : Int) = n + r.delta) (hsdom : s.lo ≤ m ∧ m ≤ s.hi ∧ (m - s.lo) % s.step = 0) :
    False :=
  CaseRun.not_mem_of_missesDomain (CaseRun.missesDomain_of_missesAll upperRuns_sorted
    (List.all_eq_true.1 upperRuns_images_apart r hr) s hs) hn hm hsdom

/-- Upper case is idempotent: the table never moves a character onto one it moves again. -/
theorem Char.toUpperSimple_toUpperSimple (c : Char) :
    Char.toUpperSimple (Char.toUpperSimple c) = Char.toUpperSimple c := by
  rcases Char.toUpperSimple_cases c with ⟨hsmall, hu⟩ | ⟨-, hu⟩ |
    ⟨r, hr, hbig, hlo, hhi, hstep, hu⟩
  · -- ASCII: the upper case is ASCII again, and `toUpper` is idempotent
    rw [hu]
    have hlt : c.toUpper.toNat < 128 := by
      rw [Char.toNat_toUpper]
      split <;> omega
    unfold Char.toUpperSimple
    rw [if_pos hlt, Char.toUpper_toUpper]
  · rw [hu, hu]
  · rw [hu]
    obtain ⟨hlow, hrange⟩ := upperRuns_image_bounds hr
    set m := ((c.toNat : Int) + r.delta).toNat with hm
    have hmInt : (m : Int) = c.toNat + r.delta := by omega
    by_cases hvalid : m.isValidChar
    · have hval : (Char.ofNat m).toNat = m := by rw [Char.toNat_ofNat_eq, if_pos hvalid]
      rcases Char.toUpperSimple_cases (Char.ofNat m) with ⟨hascii, hu'⟩ | ⟨-, hu'⟩ |
        ⟨s, hs, -, hslo, hshi, hsstep, -⟩
      · -- landed in ASCII: below `a`, so upper case already
        rw [hu']
        apply Char.toUpper_of_lt
        rw [hval] at hascii ⊢
        omega
      · exact hu'
      · rw [hval] at hslo hshi hsstep
        exact (upperRuns_image_not_mem hr hs ⟨hlo, hhi, hstep⟩ hmInt ⟨hslo, hshi, hsstep⟩).elim
    · -- not a character: the replacement is `0`, which no case moves
      have hzero : (Char.ofNat m).toNat = 0 := by rw [Char.toNat_ofNat_eq, if_neg hvalid]
      unfold Char.toUpperSimple
      rw [if_pos (by omega), Char.toUpper_of_lt (by omega)]

theorem Char.toUpperSimple_eq_colon {c : Char} (h : Char.toUpperSimple c = ':') : c = ':' := by
  have hcolon : ':'.toNat = 58 := rfl
  rcases Char.toUpperSimple_cases c with ⟨-, hu⟩ | ⟨-, hu⟩ | ⟨r, hr, -, hlo, -, -, hu⟩
  · rw [hu] at h
    have hnat := congrArg Char.toNat h
    rw [Char.toNat_toUpper, hcolon] at hnat
    rw [← Char.toNat_inj, hcolon]
    split at hnat <;> omega
  · rw [← hu]
    exact h
  · -- the table moves characters to `A` or above
    exfalso
    rw [hu] at h
    have hnat := congrArg Char.toNat h
    rw [Char.toNat_ofNat_eq, hcolon] at hnat
    have hlow := (upperRuns_image_bounds hr).1
    split at hnat <;> omega

/-! ### Texts -/

theorem String.toUpperSimple_toUpperSimple (s : String) :
    String.toUpperSimple (String.toUpperSimple s) = String.toUpperSimple s := by
  apply String.ext
  simp only [String.toUpperSimple, String.toList_map, List.map_map]
  apply List.map_congr_left
  intro c _
  exact Char.toUpperSimple_toUpperSimple c

theorem String.colon_mem_of_toUpperSimple {s : String}
    (h : ':' ∈ (String.toUpperSimple s).toList) : ':' ∈ s.toList := by
  rw [String.toUpperSimple, String.toList_map, List.mem_map] at h
  obtain ⟨c, hc, hcu⟩ := h
  rwa [← Char.toUpperSimple_eq_colon hcu]

end TradeLedger
