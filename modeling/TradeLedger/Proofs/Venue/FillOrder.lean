import Mathlib
import TradeLedger.Venue.History
/-!
# The order a walk of fills takes

Closed round trips are rebuilt by walking the fills in time order, ties by id. The sort is a
stable merge sort, so two fills with the same time and id keep their input order; when no two
fills share an id, the sorted list does not depend on the order the fills came in.

## Theorems

* `Fill.sortByTime_perm`, `Fill.sortByTime_pairwise`: the sort permutes into time order.
* `Fill.sortByTime_eq_of_perm`: with distinct ids, any order sorts to the same list.
-/

namespace TradeLedger

namespace Fill

/-- The walk's order: earlier time first, ties by id. -/
def Before (a b : Fill) : Prop := a.time < b.time ∨ (a.time = b.time ∧ a.id ≤ b.id)

theorem sortByTime_perm (fills : List Fill) : (sortByTime fills).Perm fills :=
  List.mergeSort_perm _ _

@[simp] theorem mem_sortByTime {f : Fill} {fills : List Fill} :
    f ∈ sortByTime fills ↔ f ∈ fills :=
  (sortByTime_perm fills).mem_iff

/-- The comparison the sort is given, as the order it stands for. -/
theorem before_iff (a b : Fill) :
    (a.time < b.time || (a.time == b.time && a.id ≤ b.id)) = true ↔ Before a b := by
  simp [Before]

theorem sortByTime_pairwise (fills : List Fill) : (sortByTime fills).Pairwise Before := by
  have hsorted := @List.pairwise_mergeSort _
    (fun a b => a.time < b.time || (a.time == b.time && a.id ≤ b.id))
    (fun a b c hab hbc => by
      rw [before_iff] at hab hbc ⊢
      unfold Before at hab hbc ⊢
      omega)
    (fun a b => by
      rw [Bool.or_eq_true, before_iff, before_iff]
      unfold Before
      omega) fills
  exact hsorted.imp fun h => (before_iff _ _).1 h

theorem sortByTime_time_le (fills : List Fill) :
    (sortByTime fills).Pairwise fun a b => a.time ≤ b.time :=
  (sortByTime_pairwise fills).imp fun h => by
    unfold Before at h
    omega

/-- With distinct ids, the walk takes the fills in one order whatever order they came in. -/
theorem sortByTime_eq_of_perm {fills fills' : List Fill} (hperm : fills'.Perm fills)
    (hids : (fills.map (·.id)).Nodup) : sortByTime fills' = sortByTime fills := by
  refine @List.Perm.eq_of_pairwise _ Before _ _ (fun a b ha hb hab hba => ?_)
    (sortByTime_pairwise fills') (sortByTime_pairwise fills)
    (((sortByTime_perm fills').trans hperm).trans (sortByTime_perm fills).symm)
  -- two fills each before the other share their id, and ids are distinct
  have hid : a.id = b.id := by
    unfold Before at hab hba
    omega
  rw [mem_sortByTime, hperm.mem_iff] at ha
  rw [mem_sortByTime] at hb
  exact List.inj_on_of_nodup_map hids ha hb hid

end Fill

end TradeLedger
