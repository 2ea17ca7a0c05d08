import TradeLedger.Reconcile.Match
import Mathlib
import TradeLedger.Proofs.Number.FloatOrder
import TradeLedger.Proofs.Reconcile.CloseIds
/-!
# The best match is the least fitting record

`bestMatch` scans the venue's records once, keeping the first record of the smallest rank so
far. The rank order is strict, its float field compared by IEEE `<` and `==`, so the kept record
is never beaten by a record seen before or after it. Tolerances are checked on distances that
saturate at the ends of the 64-bit nanosecond range: a record with an unset open time is more
than 292 years before a trade of this century, and it passes every tolerance.

## Main definitions

* `Record.Fits`, `Record.score`: a record within the tolerances, and its exact score.

## Theorems

* `bestMatch_least_fitting`: on unsaturated distances the match is the least fitting record.
* `either_order_same_match`: with distinct close ids, the order of the records does not matter.
* `unset_open_time_matches`: a record with an unset open time matches.
-/

namespace TradeLedger

/-! ### The rank order -/

namespace MatchRank

/-- The fields compared before the size difference, as one key in a lexicographic order: the
close distance, the open distance and the side mismatch. -/
def lead (s : MatchRank) : ℤ ×ₗ ℤ ×ₗ Bool := toLex (s.closeDelta, toLex (s.openDelta, s.sideMismatch))

/-- The comparison after the lead fields: sizes that are not `==` compare by `<`, and `==` sizes
pass to the close ids. -/
def TailLess (s o : MatchRank) : Prop :=
  ((s.sizeDiff == o.sizeDiff) = false ∧ s.sizeDiff < o.sizeDiff) ∨
    ((s.sizeDiff == o.sizeDiff) = true ∧ s.closeId < o.closeId)

theorem lead_eq_iff {s o : MatchRank} : s.lead = o.lead ↔
    s.closeDelta = o.closeDelta ∧ s.openDelta = o.openDelta ∧ s.sideMismatch = o.sideMismatch := by
  simp [lead]

theorem lead_lt_iff {s o : MatchRank} : s.lead < o.lead ↔
    s.closeDelta < o.closeDelta ∨ s.closeDelta = o.closeDelta ∧
      (s.openDelta < o.openDelta ∨ s.openDelta = o.openDelta ∧
        s.sideMismatch = false ∧ o.sideMismatch = true) := by
  simp [lead, Prod.Lex.toLex_lt_toLex, Bool.lt_iff]

/-- `less` compares the lead fields lexicographically, then the tail. -/
theorem less_iff {s o : MatchRank} :
    s.less o = true ↔ s.lead < o.lead ∨ s.lead = o.lead ∧ TailLess s o := by
  obtain ⟨cd, od, sm, sd, id⟩ := s
  obtain ⟨cd', od', sm', sd', id'⟩ := o
  rw [lead_lt_iff, lead_eq_iff, TailLess]
  simp only [less, bne]
  -- the lead fields decide unless they are equal; the tail then splits on `==` of the sizes
  by_cases hc : cd = cd'
  · by_cases ho : od = od'
    · cases sm <;> cases sm' <;> cases sd == sd' <;> simp [hc, ho]
    · simp [hc, ho]
  · simp [hc]

theorem tailLess_irrefl (s : MatchRank) : ¬ TailLess s s := by
  rintro (⟨-, h⟩ | ⟨-, h⟩)
  · exact Float.lt_irrefl _ h
  · exact lt_irrefl _ h

theorem tailLess_trans {s o p : MatchRank} (h₁ : TailLess s o) (h₂ : TailLess o p) :
    TailLess s p := by
  rcases h₁ with ⟨-, h₁⟩ | ⟨e₁, h₁⟩ <;> rcases h₂ with ⟨-, h₂⟩ | ⟨e₂, h₂⟩
  · have h := Float.lt_trans h₁ h₂
    exact .inl ⟨Float.beq_false_of_lt h, h⟩
  · have h := Float.lt_of_lt_of_beq h₁ e₂
    exact .inl ⟨Float.beq_false_of_lt h, h⟩
  · have h := Float.lt_of_beq_of_lt e₁ h₂
    exact .inl ⟨Float.beq_false_of_lt h, h⟩
  · exact .inr ⟨Float.beq_trans e₁ e₂, h₁.trans h₂⟩

theorem less_irrefl (s : MatchRank) : s.less s = false := by
  rw [Bool.eq_false_iff, ne_eq, less_iff]
  rintro (h | ⟨-, h⟩)
  · exact lt_irrefl _ h
  · exact tailLess_irrefl s h

theorem less_trans {s o p : MatchRank} (h₁ : s.less o = true) (h₂ : o.less p = true) :
    s.less p = true := by
  rw [less_iff] at h₁ h₂ ⊢
  rcases h₁ with h₁ | ⟨e₁, t₁⟩ <;> rcases h₂ with h₂ | ⟨e₂, t₂⟩
  · exact .inl (h₁.trans h₂)
  · exact .inl (e₂ ▸ h₁)
  · exact .inl (e₁ ▸ h₂)
  · exact .inr ⟨e₁.trans e₂, tailLess_trans t₁ t₂⟩

theorem less_asymm {s o : MatchRank} (h : s.less o = true) : o.less s = false := by
  rw [Bool.eq_false_iff]
  intro h'
  have := less_irrefl s
  rw [less_trans h h'] at this
  cases this

/-- Ranks with size differences that are numbers and with different close ids are ordered one
way or the other. -/
theorem less_total {s o : MatchRank} (hs : s.sizeDiff.isNaN = false)
    (ho : o.sizeDiff.isNaN = false) (hid : s.closeId ≠ o.closeId) :
    s.less o = true ∨ o.less s = true := by
  simp only [less_iff, TailLess]
  rcases lt_trichotomy s.lead o.lead with h | h | h
  · exact .inl (.inl h)
  · cases hsz : s.sizeDiff == o.sizeDiff
    · -- sizes that are not `==` are ordered by `<`
      have hsz' : (o.sizeDiff == s.sizeDiff) = false := by rw [Float.beq_comm]; exact hsz
      rcases Float.lt_or_gt_of_beq_false hs ho hsz with hlt | hgt
      · exact .inl (.inr ⟨h, .inl ⟨rfl, hlt⟩⟩)
      · exact .inr (.inr ⟨h.symm, .inl ⟨hsz', hgt⟩⟩)
    · -- `==` sizes pass to the close ids, which differ
      have hsz' : (o.sizeDiff == s.sizeDiff) = true := by rw [Float.beq_comm]; exact hsz
      rcases lt_or_gt_of_ne hid with hlt | hgt
      · exact .inl (.inr ⟨h, .inr ⟨rfl, hlt⟩⟩)
      · exact .inr (.inr ⟨h.symm, .inr ⟨hsz', hgt⟩⟩)
  · exact .inr (.inl h)

end MatchRank

/-! ### The scan -/

/-- One step of the scan: a record with a rank replaces the kept one when its rank is smaller. -/
def scanStep (rank : Record → Option MatchRank) (best : Option (Record × MatchRank)) (r : Record) :
    Option (Record × MatchRank) :=
  match rank r, best with
  | none, _ => best
  | some k, none => some (r, k)
  | some k, some (b, bk) => if k.less bk then some (r, k) else some (b, bk)

theorem bestMatch_eq_scan (t : Trade) (records : List Record) (tol : Tolerance)
    (usable : String → Bool) :
    bestMatch t records tol usable =
      (records.foldl (scanStep (rankOf t tol usable)) none).map Prod.fst := rfl

section Scan

variable (rank : Record → Option MatchRank)

/-- What one step does: it keeps the kept record, which a ranked record does not beat, or the
record takes its place, beating the kept one. -/
theorem scanStep_cases (acc : Option (Record × MatchRank)) (r : Record) :
    (scanStep rank acc r = acc ∧
      ∀ k, rank r = some k → ∃ a ak, acc = some (a, ak) ∧ k.less ak = false) ∨
    ∃ k, rank r = some k ∧ scanStep rank acc r = some (r, k) ∧
      ∀ a ak, acc = some (a, ak) → k.less ak = true := by
  unfold scanStep
  rcases hr : rank r with _ | k
  · exact .inl ⟨rfl, fun k hk => by cases hk⟩
  · rcases acc with _ | ⟨a, ak⟩
    · exact .inr ⟨k, rfl, rfl, fun _ _ h => by cases h⟩
    · by_cases hless : k.less ak = true
      · refine .inr ⟨k, rfl, if_pos hless, ?_⟩
        rintro a' ak' ⟨⟩
        exact hless
      · refine .inl ⟨if_neg hless, ?_⟩
        rintro k' ⟨⟩
        exact ⟨a, ak, rfl, Bool.eq_false_iff.2 hless⟩

/-- The invariant of the scan. The kept record comes from the records or is the one kept at the
start; no ranked record beats it; and it is the one kept at the start or beats it. -/
theorem scan_spec : ∀ (rs : List Record) (acc : Option (Record × MatchRank)) (b : Record)
    (bk : MatchRank), rs.foldl (scanStep rank) acc = some (b, bk) →
      ((b ∈ rs ∧ rank b = some bk) ∨ acc = some (b, bk)) ∧
      (∀ r ∈ rs, ∀ k, rank r = some k → k.less bk = false) ∧
      (∀ a ak, acc = some (a, ak) → (a, ak) = (b, bk) ∨ bk.less ak = true)
  | [], acc, b, bk, h => by
    rw [List.foldl_nil] at h
    subst h
    exact ⟨.inr rfl, fun r hr => absurd hr List.not_mem_nil,
      fun a ak ha => .inl (Option.some.inj ha).symm⟩
  | r :: rs, acc, b, bk, h => by
    obtain ⟨hmem, hmin, hacc⟩ := scan_spec rs (scanStep rank acc r) b bk h
    rcases scanStep_cases rank acc r with ⟨hkeep, hnot⟩ | ⟨k, hk, hstep, hbeat⟩
    · -- the kept record stays, so what is said of it carries over
      rw [hkeep] at hmem hacc
      refine ⟨hmem.imp_left fun ⟨hb, hrank⟩ => ⟨List.mem_cons_of_mem r hb, hrank⟩, ?_, hacc⟩
      intro r' hr' k' hk'
      rcases List.mem_cons.1 hr' with rfl | hr'
      · -- a record that did not beat the kept one does not beat what beats it
        obtain ⟨a, ak, ha, hnk⟩ := hnot k' hk'
        rw [Bool.eq_false_iff]
        intro hlt
        rcases hacc a ak ha with hsame | hbeats
        · cases hsame
          rw [hlt] at hnk
          cases hnk
        · rw [MatchRank.less_trans hlt hbeats] at hnk
          cases hnk
      · exact hmin r' hr' k' hk'
    · -- the record takes the place of the kept one
      rw [hstep] at hmem hacc
      have hfinal := hacc r k rfl
      refine ⟨?_, ?_, ?_⟩
      · rcases hmem with ⟨hb, hrank⟩ | hsame
        · exact .inl ⟨List.mem_cons_of_mem r hb, hrank⟩
        · cases hsame
          exact .inl ⟨List.mem_cons_self, hk⟩
      · intro r' hr' k' hk'
        rcases List.mem_cons.1 hr' with rfl | hr'
        · rw [hk] at hk'
          cases hk'
          rcases hfinal with hsame | hbeats
          · cases hsame
            exact MatchRank.less_irrefl _
          · exact MatchRank.less_asymm hbeats
        · exact hmin r' hr' k' hk'
      · intro a ak ha
        rcases hfinal with hsame | hbeats
        · cases hsame
          exact .inr (hbeat a ak ha)
        · exact .inr (MatchRank.less_trans hbeats (hbeat a ak ha))

theorem scanStep_isSome (acc : Option (Record × MatchRank)) (r : Record) :
    (scanStep rank acc r).isSome = (acc.isSome || (rank r).isSome) := by
  unfold scanStep
  rcases rank r with _ | k <;> rcases acc with _ | ⟨a, ak⟩
  · rfl
  · rfl
  · rfl
  · simp only [Option.isSome_some, Bool.or_self]
    split <;> rfl

/-- The scan keeps a record exactly when it starts with one or some record has a rank. -/
theorem scan_isSome : ∀ (rs : List Record) (acc : Option (Record × MatchRank)),
    (rs.foldl (scanStep rank) acc).isSome = true ↔
      acc.isSome = true ∨ ∃ r ∈ rs, (rank r).isSome = true
  | [], acc => by simp
  | r :: rs, acc => by
    rw [List.foldl_cons, scan_isSome rs, scanStep_isSome, Bool.or_eq_true]
    simp only [List.mem_cons, exists_eq_or_imp]
    tauto

end Scan

/-! ### Exact distances -/

/-- The distance from `u` to `t` in nanoseconds, as an exact integer: what `Instant.sub` gives
before it saturates. -/
def Instant.exactSub (t u : Instant) : Int := (t.toMs - u.toMs) * Duration.perMs

/-- A duration strictly above the most negative one and at most the largest: one that
saturation keeps and whose magnitude is exact. -/
def Duration.InRange (d : Int) : Prop := Duration.min < d ∧ d ≤ Duration.max

instance : DecidablePred Duration.InRange := fun d =>
  inferInstanceAs (Decidable (Duration.min < d ∧ d ≤ Duration.max))

theorem Instant.sub_eq_saturate (t u : Instant) :
    Instant.sub t u = Duration.saturate (Instant.exactSub t u) := rfl

theorem Duration.min_neg : Duration.min < 0 := by decide

theorem Duration.saturate_of_inRange {d : Int} (h : Duration.InRange d) :
    Duration.saturate d = d := by
  obtain ⟨hlo, hhi⟩ := h
  unfold Duration.saturate
  rw [if_neg (Int.not_lt.2 hlo.le), if_neg (Int.not_lt.2 hhi)]

/-- The magnitude of a duration in range is its absolute value: only the most negative duration
keeps its sign. -/
theorem Duration.abs_of_inRange {d : Int} (h : Duration.InRange d) : Duration.abs d = |d| := by
  have hmin := Duration.min_neg
  obtain ⟨hlo, -⟩ := h
  unfold Duration.abs
  split
  · next hneg => exact (abs_of_neg hneg.1).symm
  · next hnot =>
    have hd : 0 ≤ d := by
      by_contra hc
      exact hnot ⟨lt_of_not_ge hc, ne_of_gt hlo⟩
    exact (abs_of_nonneg hd).symm

theorem Duration.abs_saturate {d : Int} (h : Duration.InRange d) :
    Duration.abs (Duration.saturate d) = |d| := by
  rw [Duration.saturate_of_inRange h, Duration.abs_of_inRange h]

/-- A record whose open and close distances to a trade are in range, so that the matcher sees
them exactly. -/
def Record.Unsaturated (t : Trade) (r : Record) : Prop :=
  Duration.InRange (Instant.exactSub r.openTime t.createdAt) ∧
    Duration.InRange (Instant.exactSub r.closeTime t.closedAt)

instance (t : Trade) : DecidablePred (Record.Unsaturated t) := fun r =>
  inferInstanceAs (Decidable (Duration.InRange (Instant.exactSub r.openTime t.createdAt) ∧
    Duration.InRange (Instant.exactSub r.closeTime t.closedAt)))

/-- A record a trade may be matched to: a usable close id, a symbol that is absent or the
trade's up to case, and open and close times within the tolerances of the trade's. -/
structure Record.Fits (t : Trade) (tol : Tolerance) (usable : String → Bool) (r : Record) :
    Prop where
  closeId : r.closeId ≠ ""
  usable : usable r.closeId = true
  symbol : r.symbol = "" ∨ String.equalFold r.symbol t.symbol = true
  opening : |Instant.exactSub r.openTime t.createdAt| ≤ tol.opening
  closing : |Instant.exactSub r.closeTime t.closedAt| ≤ tol.closing

/-- The rank of a record by the exact distances. -/
def Record.score (t : Trade) (r : Record) : MatchRank :=
  ⟨|Instant.exactSub r.closeTime t.closedAt|, |Instant.exactSub r.openTime t.createdAt|,
    !sidesAgree t.side r.side, (r.size - t.size).abs, r.closeId⟩

section Rank

variable {t : Trade} {tol : Tolerance} {usable : String → Bool} {r : Record} {k : MatchRank}

/-- A rank the matcher gives is made of the saturated distances, the side mismatch, the size
difference and the close id of the record. -/
theorem rankOf_eq_some (h : rankOf t tol usable r = some k) :
    k = ⟨Duration.abs (Instant.sub r.closeTime t.closedAt),
      Duration.abs (Instant.sub r.openTime t.createdAt), !sidesAgree t.side r.side,
      (r.size - t.size).abs, r.closeId⟩ := by
  unfold rankOf at h
  dsimp only at h
  split at h
  · cases h
  split at h
  · cases h
  split at h
  · cases h
  · exact (Option.some.inj h).symm

theorem rankOf_closeId (h : rankOf t tol usable r = some k) : k.closeId = r.closeId := by
  rw [rankOf_eq_some h]

theorem rankOf_sizeDiff (h : rankOf t tol usable r = some k) :
    k.sizeDiff = (r.size - t.size).abs := by
  rw [rankOf_eq_some h]

/-- On a record in range, the matcher ranks exactly the fitting records, by their exact
scores. -/
theorem rankOf_eq_some_iff (hu : r.Unsaturated t) :
    rankOf t tol usable r = some k ↔ r.Fits t tol usable ∧ k = r.score t := by
  unfold rankOf
  rw [Instant.sub_eq_saturate, Instant.sub_eq_saturate, Duration.abs_saturate hu.1,
    Duration.abs_saturate hu.2]
  by_cases hid : (r.closeId == "" || !usable r.closeId) = true
  · rw [if_pos hid]
    simp only [reduceCtorEq, false_iff, not_and]
    intro hfit
    simp [hfit.closeId, hfit.usable] at hid
  rw [if_neg hid]
  by_cases hsym : (r.symbol != "" && !String.equalFold r.symbol t.symbol) = true
  · rw [if_pos hsym]
    simp only [reduceCtorEq, false_iff, not_and]
    intro hfit
    rcases hfit.symbol with h | h <;> simp [h] at hsym
  rw [if_neg hsym]
  by_cases hrange : (decide (tol.opening < |Instant.exactSub r.openTime t.createdAt|) ||
      decide (tol.closing < |Instant.exactSub r.closeTime t.closedAt|)) = true
  · rw [if_pos hrange]
    simp only [reduceCtorEq, false_iff, not_and]
    intro hfit
    rw [Bool.or_eq_true, decide_eq_true_iff, decide_eq_true_iff] at hrange
    rcases hrange with h | h
    · exact absurd hfit.opening (not_le.2 h)
    · exact absurd hfit.closing (not_le.2 h)
  rw [if_neg hrange, Option.some.injEq]
  simp only [Bool.or_eq_true, beq_iff_eq, Bool.not_eq_eq_eq_not, Bool.not_true, not_or,
    Bool.not_eq_false, Bool.and_eq_true, bne_iff_ne, ne_eq, not_and, decide_eq_true_eq,
    not_lt] at hid hsym hrange
  have hfit : r.Fits t tol usable :=
    ⟨hid.1, hid.2, by by_cases h : r.symbol = "" <;> simp_all, hrange.1, hrange.2⟩
  exact ⟨fun h => ⟨hfit, h.symm⟩, fun ⟨_, h⟩ => h.symm⟩

end Rank

/-! ### The best match -/

section Best

variable {t : Trade} {records : List Record} {tol : Tolerance} {usable : String → Bool}

/-- A returned record is one of the records, with a rank that no ranked record beats. -/
theorem bestMatch_some {b : Record} (h : bestMatch t records tol usable = some b) :
    ∃ bk, b ∈ records ∧ rankOf t tol usable b = some bk ∧
      ∀ r ∈ records, ∀ k, rankOf t tol usable r = some k → k.less bk = false := by
  rw [bestMatch_eq_scan] at h
  obtain ⟨⟨b', bk⟩, hscan, rfl⟩ := Option.map_eq_some_iff.1 h
  obtain ⟨hmem, hmin, -⟩ := scan_spec _ records none b' bk hscan
  rcases hmem with ⟨hb, hrank⟩ | hnone
  · exact ⟨bk, hb, hrank, hmin⟩
  · cases hnone

theorem bestMatch_isSome :
    (bestMatch t records tol usable).isSome = true ↔
      ∃ r ∈ records, (rankOf t tol usable r).isSome = true := by
  rw [bestMatch_eq_scan, Option.isSome_map, scan_isSome]
  simp

/-- With distinct close ids and size differences that are numbers, the order of the records
does not matter: any two ranked records are ordered, so the least one is unique. -/
theorem bestMatch_perm {records' : List Record} (hperm : records'.Perm records)
    (hids : (records.map (·.closeId)).Nodup)
    (hsize : ∀ r ∈ records, (r.size - t.size).abs.isNaN = false) :
    bestMatch t records' tol usable = bestMatch t records tol usable := by
  have hsome : (bestMatch t records' tol usable).isSome =
      (bestMatch t records tol usable).isSome := by
    apply Bool.eq_iff_iff.2
    simp only [bestMatch_isSome, hperm.mem_iff]
  rcases h : bestMatch t records tol usable with _ | b
  · rw [h, Option.isSome_none] at hsome
    exact Option.not_isSome_iff_eq_none.1 (by simp [hsome])
  · rw [h, Option.isSome_some] at hsome
    obtain ⟨b', h'⟩ := Option.isSome_iff_exists.1 hsome
    rw [h']
    obtain ⟨bk, hb, hrank, hmin⟩ := bestMatch_some h
    obtain ⟨bk', hb', hrank', hmin'⟩ := bestMatch_some h'
    have hb'mem : b' ∈ records := hperm.mem_iff.1 hb'
    by_cases hid : b'.closeId = b.closeId
    · -- one close id is one record
      exact congrArg some (List.inj_on_of_nodup_map hids hb'mem hb hid)
    · -- two records with different close ids: one would beat the other
      have hsz : ∀ {r k}, r ∈ records → rankOf t tol usable r = some k → k.sizeDiff.isNaN = false :=
        fun hr hk => (rankOf_sizeDiff hk).symm ▸ hsize _ hr
      rcases MatchRank.less_total (hsz hb'mem hrank') (hsz hb hrank)
          (by rw [rankOf_closeId hrank', rankOf_closeId hrank]; exact hid) with hlt | hlt
      · rw [hmin b' hb'mem bk' hrank'] at hlt
        cases hlt
      · rw [hmin' b (hperm.mem_iff.2 hb) bk hrank] at hlt
        cases hlt

end Best

/-- The matcher chooses a least fitting record. On records whose distances to the trade do not
saturate, a returned record is one of the records, fits the trade by the exact distances, and
no fitting record has a smaller exact score; and a record is returned exactly when one fits.
When the close ids are distinct and the size differences are numbers, the result does not
depend on the order of the records. -/
theorem bestMatch_least_fitting (t : Trade) (records : List Record) (tol : Tolerance)
    (usable : String → Bool) :
    ((∀ r ∈ records, r.Unsaturated t) →
      (∀ b, bestMatch t records tol usable = some b →
        b ∈ records ∧ b.Fits t tol usable ∧
          ∀ r ∈ records, r.Fits t tol usable → (r.score t).less (b.score t) = false) ∧
      ((bestMatch t records tol usable).isSome = true ↔ ∃ r ∈ records, r.Fits t tol usable)) ∧
    (∀ records' : List Record, records'.Perm records → (records.map (·.closeId)).Nodup →
      (∀ r ∈ records, (r.size - t.size).abs.isNaN = false) →
      bestMatch t records' tol usable = bestMatch t records tol usable) := by
  refine ⟨fun hnear => ⟨?_, ?_⟩, fun _ hperm hids hsize => bestMatch_perm hperm hids hsize⟩
  · intro b hb
    obtain ⟨bk, hmem, hrank, hmin⟩ := bestMatch_some hb
    obtain ⟨hfit, rfl⟩ := (rankOf_eq_some_iff (hnear b hmem)).1 hrank
    refine ⟨hmem, hfit, fun r hr hrfit => hmin r hr _ ?_⟩
    exact (rankOf_eq_some_iff (hnear r hr)).2 ⟨hrfit, rfl⟩
  · rw [bestMatch_isSome]
    constructor
    · rintro ⟨r, hr, hsome⟩
      obtain ⟨k, hk⟩ := Option.isSome_iff_exists.1 hsome
      exact ⟨r, hr, ((rankOf_eq_some_iff (hnear r hr)).1 hk).1⟩
    · rintro ⟨r, hr, hfit⟩
      exact ⟨r, hr, by rw [(rankOf_eq_some_iff (hnear r hr)).2 ⟨hfit, rfl⟩]; rfl⟩

/-- A trade's two candidate positions in range, with close ids `900` and `901`: one fits, and
the matcher answers the same whichever comes first. -/
theorem either_order_same_match :
    (∀ r ∈ [closeRecord, { closeRecord with closeId := "901", closeTime := some 1790859660000 }],
        r.Unsaturated (closedLong "t" "alice" 1790856000000 1790859600000)) ∧
    ([closeRecord, { closeRecord with closeId := "901", closeTime := some 1790859660000 }].map
        (·.closeId)).Nodup ∧
    (∀ r ∈ [closeRecord, { closeRecord with closeId := "901", closeTime := some 1790859660000 }],
        (r.size - (closedLong "t" "alice" 1790856000000 1790859600000).size).abs.isNaN = false) ∧
    ((bestMatch (closedLong "t" "alice" 1790856000000 1790859600000)
        [closeRecord, { closeRecord with closeId := "901", closeTime := some 1790859660000 }]
        Tolerance.strict fun _ => true).isSome = true ↔
      ∃ r ∈ [closeRecord, { closeRecord with closeId := "901", closeTime := some 1790859660000 }],
        r.Fits (closedLong "t" "alice" 1790856000000 1790859600000) Tolerance.strict fun _ => true) ∧
    bestMatch (closedLong "t" "alice" 1790856000000 1790859600000)
        [{ closeRecord with closeId := "901", closeTime := some 1790859660000 }, closeRecord]
        Tolerance.strict (fun _ => true) =
      bestMatch (closedLong "t" "alice" 1790856000000 1790859600000)
        [closeRecord, { closeRecord with closeId := "901", closeTime := some 1790859660000 }]
        Tolerance.strict fun _ => true := by
  have hnear : ∀ r ∈ [closeRecord, { closeRecord with closeId := "901", closeTime := some 1790859660000 }],
      r.Unsaturated (closedLong "t" "alice" 1790856000000 1790859600000) := by decide
  have hids : ([closeRecord, { closeRecord with closeId := "901", closeTime := some 1790859660000 }].map
      (·.closeId)).Nodup := by decide
  have hsize : ∀ r ∈ [closeRecord, { closeRecord with closeId := "901", closeTime := some 1790859660000 }],
      (r.size - (closedLong "t" "alice" 1790856000000 1790859600000).size).abs.isNaN = false := by
    decide
  exact ⟨hnear, hids, hsize, ((bestMatch_least_fitting _ _ _ _).1 hnear).2,
    (bestMatch_least_fitting _ _ _ _).2 _ (List.Perm.swap _ _ []) hids hsize⟩

/-- A venue position whose open time is unset is matched to a trade of this century within the
strict tolerance of two minutes. Its open time is the zero instant, more than two thousand years
before the trade's; the distance saturates at the most negative duration, whose magnitude stays
negative and so is within every tolerance. -/
theorem unset_open_time_matches :
    ∃ b, bestMatch (closedLong "t" "alice" 1790856000000 1790859600000)
        [{ closeRecord with openTime := none }] Tolerance.strict (fun _ => true) = some b ∧
      Tolerance.strict.opening <
        |Instant.exactSub b.openTime (closedLong "t" "alice" 1790856000000 1790859600000).createdAt| :=
  ⟨_, rfl, by decide⟩

end TradeLedger
