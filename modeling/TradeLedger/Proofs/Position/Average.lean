import Mathlib
import TradeLedger.Proofs.Position.Weighted
import TradeLedger.Proofs.Number.Monotone
/-!
# A position is the exact size-weighted average of its trades

`aggregate` folds a trader's trades into a position, leaving out one id. It reads each kept
trade's size and entry price as decimals, sums sizes and size-weighted prices exactly, and
rounds at the end: the size is the float of the exact sum, the entry price the float of the
exact quotient cut to a quotient's places. Exact sums do not see the order of the trades. A kept
trade whose size or price is infinite or NaN has no decimal, and the position stops.

## Main definitions

* `exactPosition`: the position from exact sums.

## Theorems

* `aggregate_eq_exactPosition`: with ids and finite figures, the position is the exact one.
* `aggregate_perm`: size and entry price do not depend on the order of the trades.
* `aggregate_entry_between`: the entry price lies between the smallest and largest price.
* `infinite_price_stops_aggregate`: an infinite price stops the aggregation.
-/

namespace TradeLedger

namespace Trade

/-- The value of a trade's entry price, as its decimal denotes it; zero for a float with no
decimal. -/
def priceValue (t : Trade) : ℚ :=
  ((Decimal.ofFloat t.entryPrice).toOption.getD Decimal.zero).value

theorem notionalValue_eq_mul (t : Trade) : t.notionalValue = t.sizeValue * t.priceValue := rfl

theorem priceValue_eq {t : Trade} {p : Decimal} (h : Decimal.ofFloat t.entryPrice = .ok p) :
    t.priceValue = p.value := by
  simp [priceValue, h, Except.toOption]

end Trade

/-- The exact sum of the sizes of trades. -/
def totalSize (ts : List Trade) : ℚ := (ts.map Trade.sizeValue).sum

/-- The exact size-weighted mean entry price of trades, cut to the places a quotient keeps, half
away from zero. -/
def meanEntry (ts : List Trade) : ℚ :=
  (Decimal.roundHalfAway ((ts.map Trade.notionalValue).sum / totalSize ts *
    10 ^ Decimal.divisionPlaces) : ℚ) / 10 ^ Decimal.divisionPlaces

/-- The position of kept trades, from exact sums: none without trades; otherwise the position
the first trade opens, listing every trade, with the float of the summed sizes and, when that
sum is positive, the float of the mean entry (0 otherwise). -/
def exactPosition (trader : String) : List Trade → Option Position
  | [] => none
  | t :: ts => some { Position.openedBy trader t with
      tradeIds := (t :: ts).map (·.id),
      size := Binary64.ofRat (totalSize (t :: ts)),
      entryPrice := if 0 < totalSize (t :: ts) then Binary64.ofRat (meanEntry (t :: ts)) else 0 }

/-- The value of a quotient: the exact quotient cut to the places it keeps, half away from
zero. -/
theorem Decimal.value_div_getD {M S : Decimal} (hS : S.value ≠ 0) :
    ((M.div S).getD zero).value =
      (roundHalfAway (M.value / S.value * 10 ^ divisionPlaces) : ℚ) / 10 ^ divisionPlaces := by
  rw [div_eq hS, Option.getD_some, value, zpow_neg, zpow_natCast, ← div_eq_mul_inv]

/-! ### The position from exact sums -/

section Position

variable (trader : String) (trades : List Trade) (exclude : String)

/-- A trade is kept when it is in the list and its id is not the one left out. -/
theorem mem_kept {t : Trade} :
    t ∈ trades.filter (·.id != exclude) ↔ t ∈ trades ∧ t.id ≠ exclude := by
  simp

/-- When every kept trade has an id, leaving out the trades without one leaves out nothing more. -/
theorem aggregate_kept (hid : ∀ t ∈ trades, t.id ≠ exclude → t.id ≠ "") :
    aggregate trader trades exclude = aggregate trader (trades.filter (·.id != exclude)) "" := by
  have hkeep : (trades.filter (·.id != exclude)).filter (·.id != "") =
      trades.filter (·.id != exclude) := by
    refine List.filter_eq_self.mpr fun t ht => ?_
    obtain ⟨hmem, hne⟩ := (mem_kept trades exclude).mp ht
    simpa using hid t hmem hne
  unfold aggregate
  rw [hkeep]

/-- The position of trades whose kept trades have ids and finite figures, from exact sums. -/
theorem aggregate_eq_exactPosition (hid : ∀ t ∈ trades, t.id ≠ exclude → t.id ≠ "")
    (hfin : ∀ t ∈ trades, t.id ≠ exclude → t.holdingsFinite = true) :
    aggregate trader trades exclude =
      .ok (exactPosition trader (trades.filter (·.id != exclude))) := by
  rw [aggregate_kept trader trades exclude hid]
  have hkept :
      ∀ t ∈ trades.filter (·.id != exclude), t.id ≠ "" ∧ t.holdingsFinite = true := by
    intro t ht
    obtain ⟨hmem, hne⟩ := (mem_kept trades exclude).mp ht
    exact ⟨hid t hmem hne, hfin t hmem hne⟩
  generalize trades.filter (·.id != exclude) = ks at hkept
  cases ks with
  | nil => rfl
  | cons t ts =>
    obtain ⟨S, M, hS, hM, hagg⟩ :=
      aggregate_eq trader (fun u hu => (hkept u hu).1) (fun u hu => (hkept u hu).2)
    rw [hagg, exactPosition]
    -- the decimals' floats are the floats of their values
    have hsize : S.toFloat = Binary64.ofRat (totalSize (t :: ts)) := by
      rw [Decimal.toFloat_eq_ofRat, hS, totalSize]
    have hcond : S.isPositive = true ↔ 0 < totalSize (t :: ts) := by
      rw [Decimal.isPositive_iff, hS, totalSize]
    by_cases hpos : 0 < totalSize (t :: ts)
    · have hentry :
          ((M.div S).getD Decimal.zero).toFloat = Binary64.ofRat (meanEntry (t :: ts)) := by
        rw [Decimal.toFloat_eq_ofRat, Decimal.value_div_getD (by rw [hS]; exact hpos.ne'), hS, hM,
          meanEntry, totalSize]
      rw [if_pos (hcond.mpr hpos), if_pos hpos, hsize, hentry]
    · rw [if_neg (mt hcond.mp hpos), if_neg hpos, hsize]

theorem aggregate_found_iff (hid : ∀ t ∈ trades, t.id ≠ exclude → t.id ≠ "")
    (hfin : ∀ t ∈ trades, t.id ≠ exclude → t.holdingsFinite = true) :
    (∃ p, aggregate trader trades exclude = .ok (some p)) ↔
      ∃ t ∈ trades, t.id ≠ exclude := by
  rw [aggregate_eq_exactPosition trader trades exclude hid hfin]
  constructor
  · rintro ⟨p, hp⟩
    cases hks : trades.filter (·.id != exclude) with
    | nil => rw [hks] at hp; cases hp
    | cons t ts =>
      exact ⟨t, (mem_kept trades exclude).mp (hks ▸ List.mem_cons_self)⟩
  · rintro ⟨t, hmem, hne⟩
    cases hks : trades.filter (·.id != exclude) with
    | nil => exact absurd ((mem_kept trades exclude).mpr ⟨hmem, hne⟩) (hks ▸ List.not_mem_nil)
    | cons u us => exact ⟨_, rfl⟩

end Position

/-! ### The order of the trades -/

theorem totalSize_perm {ts ts' : List Trade} (h : ts.Perm ts') : totalSize ts = totalSize ts' :=
  (h.map _).sum_eq

theorem meanEntry_perm {ts ts' : List Trade} (h : ts.Perm ts') : meanEntry ts = meanEntry ts' := by
  rw [meanEntry, meanEntry, totalSize_perm h, (h.map Trade.notionalValue).sum_eq]

/-- The size and entry price of a position from exact sums do not depend on the order of its
trades. -/
theorem exactPosition_perm (trader : String) {ts ts' : List Trade} (h : ts.Perm ts') :
    (exactPosition trader ts).map (fun p => (p.size, p.entryPrice)) =
      (exactPosition trader ts').map (fun p => (p.size, p.entryPrice)) := by
  cases ts with
  | nil => rw [← h.nil_eq]
  | cons t ts =>
    cases ts' with
    | nil => exact absurd h.eq_nil (List.cons_ne_nil t ts)
    | cons t' ts' => simp only [exactPosition, Option.map_some, totalSize_perm h, meanEntry_perm h]

/-- The size and entry price of a position do not depend on the order of the trades. -/
theorem aggregate_perm (trader : String) {trades trades' : List Trade} (exclude : String)
    (hperm : trades'.Perm trades) (hid : ∀ t ∈ trades, t.id ≠ exclude → t.id ≠ "")
    (hfin : ∀ t ∈ trades, t.id ≠ exclude → t.holdingsFinite = true) :
    (aggregate trader trades' exclude).map (Option.map fun p => (p.size, p.entryPrice)) =
      (aggregate trader trades exclude).map (Option.map fun p => (p.size, p.entryPrice)) := by
  rw [aggregate_eq_exactPosition trader trades' exclude (fun t ht => hid t (hperm.subset ht))
      (fun t ht => hfin t (hperm.subset ht)),
    aggregate_eq_exactPosition trader trades exclude hid hfin]
  exact congrArg Except.ok (exactPosition_perm trader (hperm.filter _))

/-! ### The entry price between the prices -/

theorem Decimal.roundHalfAway_mono {x y : ℚ} (h : x ≤ y) :
    roundHalfAway x ≤ roundHalfAway y := by
  unfold roundHalfAway
  split <;> split
  · exact Int.floor_le_floor (by linarith)
  · linarith
  · -- a negative rounds to zero or below, a non-negative to zero or above
    have hx : 0 ≤ ⌊-x + 1 / 2⌋ := Int.floor_nonneg.mpr (by linarith)
    have hy : 0 ≤ ⌊y + 1 / 2⌋ := Int.floor_nonneg.mpr (by linarith)
    omega
  · have := Int.floor_le_floor (show -y + 1 / 2 ≤ -x + 1 / 2 by linarith)
    omega

section Mean

variable {ts : List Trade} {c : ℚ}

theorem totalSize_pos (hpos : ∀ t ∈ ts, 0 < t.sizeValue) (hne : ts ≠ []) : 0 < totalSize ts :=
  List.sum_pos _ (fun _ hx => by obtain ⟨t, ht, rfl⟩ := List.mem_map.mp hx; exact hpos t ht)
    (by simpa using hne)

/-- A bound below a rational on the grid of a quotient's places stays below it after the cut to
those places. -/
theorem Decimal.le_cut_of_le {q : ℚ} (hk : ∃ k : ℤ, c * 10 ^ divisionPlaces = k)
    (hq : c ≤ q) :
    c ≤ (roundHalfAway (q * 10 ^ divisionPlaces) : ℚ) / 10 ^ divisionPlaces := by
  obtain ⟨k, hk⟩ := hk
  have hround : k ≤ roundHalfAway (q * 10 ^ divisionPlaces) := by
    rw [← roundHalfAway_intCast k, ← hk]
    exact roundHalfAway_mono (by gcongr)
  rw [le_div_iff₀ (by positivity), hk]
  exact_mod_cast hround

/-- A bound above a rational on the grid of a quotient's places stays above it after the cut. -/
theorem Decimal.cut_le_of_le {q : ℚ} (hk : ∃ k : ℤ, c * 10 ^ divisionPlaces = k)
    (hq : q ≤ c) :
    (roundHalfAway (q * 10 ^ divisionPlaces) : ℚ) / 10 ^ divisionPlaces ≤ c := by
  obtain ⟨k, hk⟩ := hk
  have hround : roundHalfAway (q * 10 ^ divisionPlaces) ≤ k := by
    rw [← roundHalfAway_intCast k, ← hk]
    exact roundHalfAway_mono (by gcongr)
  rw [div_le_iff₀ (by positivity), hk]
  exact_mod_cast hround

/-- With positive sizes, a bound below every price on the grid of a quotient's places is a bound
below the mean entry. -/
theorem le_meanEntry (hpos : ∀ t ∈ ts, 0 < t.sizeValue) (hne : ts ≠ [])
    (hk : ∃ k : ℤ, c * 10 ^ Decimal.divisionPlaces = k)
    (hc : ∀ t ∈ ts, c ≤ t.priceValue) :
    c ≤ meanEntry ts := by
  have hS := totalSize_pos hpos hne
  have hsum : c * totalSize ts ≤ (ts.map Trade.notionalValue).sum := by
    rw [totalSize, ← List.sum_map_mul_left]
    refine List.sum_le_sum fun t ht => ?_
    rw [Trade.notionalValue_eq_mul, mul_comm c]
    exact mul_le_mul_of_nonneg_left (hc t ht) (hpos t ht).le
  exact Decimal.le_cut_of_le hk ((le_div_iff₀ hS).mpr hsum)

/-- With positive sizes, a bound above every price on the grid of a quotient's places is a bound
above the mean entry. -/
theorem meanEntry_le (hpos : ∀ t ∈ ts, 0 < t.sizeValue) (hne : ts ≠ [])
    (hk : ∃ k : ℤ, c * 10 ^ Decimal.divisionPlaces = k)
    (hc : ∀ t ∈ ts, t.priceValue ≤ c) :
    meanEntry ts ≤ c := by
  have hS := totalSize_pos hpos hne
  have hsum : (ts.map Trade.notionalValue).sum ≤ c * totalSize ts := by
    rw [totalSize, ← List.sum_map_mul_left]
    refine List.sum_le_sum fun t ht => ?_
    rw [Trade.notionalValue_eq_mul, mul_comm c]
    exact mul_le_mul_of_nonneg_left (hc t ht) (hpos t ht).le
  exact Decimal.cut_le_of_le hk ((div_le_iff₀ hS).mpr hsum)

end Mean

/-- With positive sizes and prices on the grid of a quotient's places, the entry price of a
position lies between the smallest and the largest entry price of its kept trades: the mean,
cut to that grid, stays between the least and the greatest price, and rounding to a float keeps
order. -/
theorem aggregate_entry_between (trader : String) (trades : List Trade) (exclude : String)
    (hid : ∀ t ∈ trades, t.id ≠ exclude → t.id ≠ "")
    (hfin : ∀ t ∈ trades, t.id ≠ exclude → t.holdingsFinite = true)
    (hsize : ∀ t ∈ trades, t.id ≠ exclude → 0 < t.size)
    (hplaces : ∀ t ∈ trades, t.id ≠ exclude →
      ∃ k : ℤ, t.priceValue * 10 ^ Decimal.divisionPlaces = k)
    {p : Position} (hp : aggregate trader trades exclude = .ok (some p)) :
    (∃ a ∈ trades, a.id ≠ exclude ∧ a.entryPrice ≤ p.entryPrice) ∧
      (∃ b ∈ trades, b.id ≠ exclude ∧ p.entryPrice ≤ b.entryPrice) := by
  rw [aggregate_eq_exactPosition trader trades exclude hid hfin] at hp
  have hkept : ∀ t ∈ trades.filter (·.id != exclude), t ∈ trades ∧ t.id ≠ exclude :=
    fun t ht => (mem_kept trades exclude).mp ht
  -- a kept trade's positive size has a positive decimal
  have hpos : ∀ t ∈ trades.filter (·.id != exclude), 0 < t.sizeValue := by
    intro t ht
    obtain ⟨hmem, hne⟩ := hkept t ht
    obtain ⟨s, -, hs, -⟩ := Trade.decimals_of_finite (hfin t hmem hne)
    rw [Trade.sizeValue_eq hs]
    exact Decimal.value_pos_of_ofFloat (hsize t hmem hne) hs
  generalize trades.filter (·.id != exclude) = ks at hp hkept hpos
  cases ks with
  | nil => cases hp
  | cons t ts =>
    have hS := totalSize_pos hpos (List.cons_ne_nil t ts)
    simp only [exactPosition, Except.ok.injEq, Option.some.injEq] at hp
    subst hp
    dsimp only
    rw [if_pos hS]
    -- the trades of least and greatest price
    have hmin : (t :: ts).argmin Trade.priceValue ≠ none :=
      mt List.argmin_eq_none.mp (List.cons_ne_nil t ts)
    have hmax : (t :: ts).argmax Trade.priceValue ≠ none :=
      mt List.argmax_eq_none.mp (List.cons_ne_nil t ts)
    obtain ⟨a, ha⟩ := Option.ne_none_iff_exists'.mp hmin
    obtain ⟨b, hb⟩ := Option.ne_none_iff_exists'.mp hmax
    obtain ⟨hamem, hane⟩ := hkept a (List.argmin_mem ha)
    obtain ⟨hbmem, hbne⟩ := hkept b (List.argmax_mem hb)
    obtain ⟨-, pa, -, hpa⟩ := Trade.decimals_of_finite (hfin a hamem hane)
    obtain ⟨-, pb, -, hpb⟩ := Trade.decimals_of_finite (hfin b hbmem hbne)
    have hlow : pa.value ≤ meanEntry (t :: ts) := by
      rw [← Trade.priceValue_eq hpa]
      exact le_meanEntry hpos (List.cons_ne_nil t ts) (hplaces a hamem hane)
        fun u hu => List.le_of_mem_argmin hu ha
    have hhigh : meanEntry (t :: ts) ≤ pb.value := by
      rw [← Trade.priceValue_eq hpb]
      exact meanEntry_le hpos (List.cons_ne_nil t ts) (hplaces b hbmem hbne)
        fun u hu => List.le_of_mem_argmax hu hb
    exact ⟨⟨a, hamem, hane, Decimal.le_ofRat_of_ofFloat hpa hlow⟩,
      ⟨b, hbmem, hbne, Decimal.ofRat_le_of_ofFloat hpb hhigh⟩⟩

/-- `aggregate` is the exact size-weighted average of the kept trades, when those have ids and
finite figures. The position is the one computed from exact sums, found exactly when some trade
is kept; its size and entry price do not depend on the order of the trades; and with positive
sizes and prices on the grid of a quotient's places, the entry price lies between the smallest
and the largest entry price of the kept trades. -/
theorem aggregate_exact_weighted_mean (trader : String) (trades : List Trade) (exclude : String)
    (hid : ∀ t ∈ trades, t.id ≠ exclude → t.id ≠ "")
    (hfin : ∀ t ∈ trades, t.id ≠ exclude → t.holdingsFinite = true) :
    aggregate trader trades exclude =
        .ok (exactPosition trader (trades.filter (·.id != exclude))) ∧
      ((∃ p, aggregate trader trades exclude = .ok (some p)) ↔
        ∃ t ∈ trades, t.id ≠ exclude) ∧
      (∀ trades', trades'.Perm trades →
        (aggregate trader trades' exclude).map (Option.map fun p => (p.size, p.entryPrice)) =
          (aggregate trader trades exclude).map (Option.map fun p => (p.size, p.entryPrice))) ∧
      ((∀ t ∈ trades, t.id ≠ exclude → 0 < t.size) →
        (∀ t ∈ trades, t.id ≠ exclude →
          ∃ k : ℤ, t.priceValue * 10 ^ Decimal.divisionPlaces = k) →
        ∀ p, aggregate trader trades exclude = .ok (some p) →
          (∃ a ∈ trades, a.id ≠ exclude ∧ a.entryPrice ≤ p.entryPrice) ∧
            (∃ b ∈ trades, b.id ≠ exclude ∧ p.entryPrice ≤ b.entryPrice)) :=
  ⟨aggregate_eq_exactPosition trader trades exclude hid hfin,
    aggregate_found_iff trader trades exclude hid hfin,
    fun _ hperm => aggregate_perm trader exclude hperm hid hfin,
    fun hsize hplaces _ hp =>
      aggregate_entry_between trader trades exclude hid hfin hsize hplaces hp⟩

/-- Three short legs of one trader, of sizes 1, 2 and 0.5 at 100, 110 and 90. -/
def shortLegs : List Trade :=
  [{ id := "a", traderId := "alice", symbol := "ETHUSDT", side := .short, size := 1,
     entryPrice := 100 },
   { id := "b", traderId := "alice", symbol := "ETHUSDT", side := .short, size := 2,
     entryPrice := 110 },
   { id := "c", traderId := "alice", symbol := "ETHUSDT", side := .short, size := 0.5,
     entryPrice := 90 }]

/-- The three legs make one position, opened by the first, whose entry price lies between two
of the legs' prices. -/
theorem shortLegs_entry_between :
    ∃ p, aggregate "alice" shortLegs "" = .ok (some p) ∧ p.primaryTradeId = "a" ∧
      (∃ a ∈ shortLegs, a.id ≠ "" ∧ a.entryPrice ≤ p.entryPrice) ∧
      (∃ b ∈ shortLegs, b.id ≠ "" ∧ p.entryPrice ≤ b.entryPrice) := by
  obtain ⟨heq, -, -, hbetween⟩ :=
    aggregate_exact_weighted_mean "alice" shortLegs "" (fun _ _ h => h) (by decide +kernel)
  -- the legs' prices are whole numbers
  have hden : ∀ t ∈ shortLegs, (t.priceValue * 10 ^ Decimal.divisionPlaces).den = 1 := by
    decide +kernel
  have hplaces : ∀ t ∈ shortLegs, t.id ≠ "" →
      ∃ k : ℤ, t.priceValue * 10 ^ Decimal.divisionPlaces = k :=
    fun t ht _ => ⟨_, ((Rat.den_eq_one_iff _).mp (hden t ht)).symm⟩
  exact ⟨_, heq, rfl, hbetween (by decide +kernel) hplaces _ heq⟩

/-- A trade priced at positive infinity. -/
def infinitePriced : Trade :=
  { id := "a", traderId := "alice", symbol := "BTCUSDT", side := .long, size := 1,
    entryPrice := Binary64.infinity false, createdAt := some 1790000000000 }

/-- A kept trade priced at infinity has no decimal, so a list holding it has no position, found
or not: `aggregate` stops with the decimal's refusal. -/
theorem infinite_price_stops_aggregate :
    aggregate "alice" [infinitePriced] "" = .error "Cannot create a Decimal from +Inf" := by
  with_unfolding_all rfl

end TradeLedger
