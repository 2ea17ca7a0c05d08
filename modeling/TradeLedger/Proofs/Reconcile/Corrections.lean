import TradeLedger.Proofs.Ledger.Rows
import TradeLedger.Reconcile.Engine
/-!
# Rows as a run's corrections leave them

A reconciliation run that is not dry writes each correction to the rows of its trade: the
rounded figure as a stored float, the close id, the run's time, and a new version and update
time. A correction leaves every column the closed-trades query filters and sorts on, so the
query over the corrected rows lists the same trades in the same order, corrected.

## Main definitions

* `Store.withCorrections`: the rows with each correction applied to its trade's rows.

## Theorems

* `Store.updateReconciled_withCorrections`: the writes of distinct trades' corrections.
* `Store.closedSince_withCorrections`: the query over the corrected rows.
-/

namespace TradeLedger

section Sorting

variable {α : Type} (le : α → α → Bool) {f : α → α}

theorem insertStable_map (hf : ∀ a b, le (f a) (f b) = le a b) (a : α) :
    ∀ l : List α, insertStable le (f a) (l.map f) = (insertStable le a l).map f
  | [] => rfl
  | b :: l => by
    simp only [List.map_cons, insertStable, hf]
    split
    · rfl
    · rw [insertStable_map hf a l, List.map_cons]

theorem stableSort_map (hf : ∀ a b, le (f a) (f b) = le a b) :
    ∀ l : List α, stableSort le (l.map f) = (stableSort le l).map f
  | [] => rfl
  | a :: l => by
    rw [List.map_cons, stableSort, stableSort, stableSort_map hf l, insertStable_map le hf]

end Sorting

/-- A trade as the corrections `cs` of a run at `now` leave its row: the correction of its id,
if there is one, stored with a new version and update time. -/
def Trade.withCorrections (cs : List Correction) (now : Instant) (t : Trade) : Trade :=
  match cs.find? (·.tradeId == t.id) with
  | some c => { t with realizedPnl := storedFloat c.newPnl, reconciledCloseId := c.closeId,
                       reconciledAt := now, version := t.version + 1, updatedAt := now }
  | none => t

/-- A row with a run's corrections applied to its trade. -/
def Row.withCorrections (cs : List Correction) (now : Instant) (r : Row) : Row :=
  { r with trade := r.trade.withCorrections cs now }

/-- A store with a run's corrections applied to every row. -/
def Store.withCorrections (cs : List Correction) (now : Instant) (s : Store) : Store :=
  { s with rows := s.rows.map (Row.withCorrections cs now) }

namespace Trade

variable {cs cs' : List Correction} {now : Instant} {t : Trade}

/-- The corrections leave every column but the stored figure, the close id and the times. -/
theorem withCorrections_eq_or (cs : List Correction) (now : Instant) (t : Trade) :
    t.withCorrections cs now = t ∨ ∃ c ∈ cs, c.tradeId = t.id ∧
      t.withCorrections cs now =
        { t with realizedPnl := storedFloat c.newPnl, reconciledCloseId := c.closeId,
                 reconciledAt := now, version := t.version + 1, updatedAt := now } := by
  unfold withCorrections
  split
  · rename_i c hc
    exact .inr ⟨c, List.mem_of_find?_eq_some hc, by simpa using List.find?_some hc, rfl⟩
  · exact .inl rfl

@[simp] theorem id_withCorrections : (t.withCorrections cs now).id = t.id := by
  rcases withCorrections_eq_or cs now t with h | ⟨c, -, -, h⟩ <;> rw [h]

@[simp] theorem traderId_withCorrections : (t.withCorrections cs now).traderId = t.traderId := by
  rcases withCorrections_eq_or cs now t with h | ⟨c, -, -, h⟩ <;> rw [h]

@[simp] theorem status_withCorrections : (t.withCorrections cs now).status = t.status := by
  rcases withCorrections_eq_or cs now t with h | ⟨c, -, -, h⟩ <;> rw [h]

@[simp] theorem closedAt_withCorrections : (t.withCorrections cs now).closedAt = t.closedAt := by
  rcases withCorrections_eq_or cs now t with h | ⟨c, -, -, h⟩ <;> rw [h]

theorem withCorrections_of_fresh (h : ∀ c ∈ cs, c.tradeId ≠ t.id) :
    t.withCorrections cs now = t := by
  unfold withCorrections
  rw [List.find?_eq_none.mpr fun c hc => by simpa using h c hc]

/-- Corrections of other trades after the others change nothing. -/
theorem withCorrections_append_fresh (h : ∀ c ∈ cs', c.tradeId ≠ t.id) :
    t.withCorrections (cs ++ cs') now = t.withCorrections cs now := by
  have hnone : cs'.find? (·.tradeId == t.id) = none :=
    List.find?_eq_none.mpr fun c hc => by simpa using h c hc
  unfold withCorrections
  rw [List.find?_append, hnone, Option.or_none]

/-- Corrections of other trades before the others change nothing. -/
theorem withCorrections_fresh_append (h : ∀ c ∈ cs, c.tradeId ≠ t.id) :
    t.withCorrections (cs ++ cs') now = t.withCorrections cs' now := by
  unfold withCorrections
  rw [List.find?_append, List.find?_eq_none.mpr fun c hc => by simpa using h c hc, Option.none_or]

theorem withCorrections_singleton {c : Correction} (h : c.tradeId = t.id) :
    t.withCorrections [c] now =
      { t with realizedPnl := storedFloat c.newPnl, reconciledCloseId := c.closeId,
               reconciledAt := now, version := t.version + 1, updatedAt := now } := by
  unfold withCorrections
  simp [h]

end Trade

@[simp] theorem Row.trade_withCorrections {cs : List Correction} {now : Instant} {r : Row} :
    (r.withCorrections cs now).trade = r.trade.withCorrections cs now := rfl

@[simp] theorem Row.closeFilled_withCorrections {cs : List Correction} {now : Instant} {r : Row} :
    (r.withCorrections cs now).closeFilled = r.closeFilled := rfl

namespace Store

variable {s : Store} {cs : List Correction} {now : Instant}

@[simp] theorem closed_withCorrections : (s.withCorrections cs now).closed = s.closed := rfl

@[simp] theorem withCorrections_nil : s.withCorrections [] now = s := by
  have hrow : Row.withCorrections [] now = id := funext fun r => by
    rw [Row.withCorrections, Trade.withCorrections_of_fresh (by simp)]
    rfl
  rw [withCorrections, hrow, List.map_id]

/-- Storing the correction of a trade with a row, which no earlier correction names, at a figure
that is not NaN, in an open store with the earlier corrections applied goes through and applies
it too. -/
theorem updateReconciled_withCorrections {c : Correction} (hclosed : s.closed = false) {r : Row}
    (hr : r ∈ s.rows) (hid : r.trade.id = c.tradeId) (hfresh : ∀ c' ∈ cs, c'.tradeId ≠ c.tradeId)
    (hnum : c.newPnl.isNaN = false) :
    (s.withCorrections cs now).updateReconciled now c.tradeId c.newPnl c.closeId now =
      .ok (s.withCorrections (cs ++ [c]) now) := by
  have hsome : ((s.withCorrections cs now).find? c.tradeId).isSome := by
    unfold find?
    refine List.find?_isSome.mpr ⟨r.withCorrections cs now, List.mem_map_of_mem hr, ?_⟩
    simp [Row.withCorrections, hid]
  have hcols : requireNumbers ("update reconciled pnl " ++ c.tradeId ++ ": ")
      [("realized_pnl", c.newPnl)] = pure () :=
    requireNumbers_ok fun x hx => by rw [List.mem_singleton.mp hx]; exact hnum
  unfold updateReconciled guard write modify
  simp only [closed_withCorrections, hclosed, Bool.false_eq_true, if_false, hsome, if_true,
    pure_bind, hcols]
  refine congrArg Except.ok ?_
  unfold withCorrections
  congr 1
  case e_closed => exact hclosed.symm
  -- the rows of the trade take the new correction, the others keep what they had
  rw [List.map_map]
  refine List.map_congr_left fun r _ => ?_
  by_cases h : r.trade.id = c.tradeId
  · have hr : r.trade.withCorrections cs now = r.trade :=
      Trade.withCorrections_of_fresh fun c' hc' => h ▸ hfresh c' hc'
    simp only [Function.comp, Row.withCorrections, h, beq_self_eq_true, if_true, hr,
      Trade.withCorrections_fresh_append (fun c' hc' => h ▸ hfresh c' hc'),
      Trade.withCorrections_singleton h.symm]
    rfl
  · have hne : (r.trade.id == c.tradeId) = false := by simpa using h
    simp only [Function.comp, Row.withCorrections, Trade.id_withCorrections, hne,
      Bool.false_eq_true, if_false,
      Trade.withCorrections_append_fresh (fun c' (hc' : c' ∈ [c]) => by
        rw [List.mem_singleton.mp hc']
        exact Ne.symm h)]

/-- A read of a row that gave its trade found no unreadable time column. -/
theorem Row.find?_times_of_scan {o : Option (Nat × String × Option Instant)} {t t' : Trade}
    (h : (match o with
      | some (index, column, _) => Except.error (unreadableTime index column)
      | none => Except.ok t) = Except.ok t') : o = none := by
  rcases o with _ | ⟨index, column, v⟩
  · rfl
  · cases h

/-- A corrected row reads back when the row did and the run's time has a four-digit year: the
correction writes that time to the reconciliation and update columns and leaves the others. -/
theorem Row.scan_withCorrections {r : Row} (hnow : now.hasFourDigitYear = true)
    (h : Row.scan r = .ok r.trade) :
    Row.scan (r.withCorrections cs now) = .ok (r.withCorrections cs now).trade := by
  rcases Trade.withCorrections_eq_or cs now r.trade with hc | ⟨c, -, -, hc⟩
  · rw [Row.withCorrections, hc]
    exact h
  rw [Row.withCorrections, hc]
  unfold Row.scan at h ⊢
  -- the row read back before, so its creation and close times are four-digit years
  have hold := List.find?_eq_none.mp (Row.find?_times_of_scan h)
  dsimp only
  rw [List.find?_eq_none.mpr]
  intro x hx
  simp only [List.mem_cons, List.not_mem_nil, or_false] at hx
  rcases hx with rfl | rfl | rfl | rfl
  · by_cases hs : now.isSome = true <;> simp [hs, hnow]
  · exact hold (24, "created_at", some r.trade.createdAt) (by simp)
  · simp [hnow]
  · exact hold (26, "closed_at", if r.closeFilled then some r.trade.closedAt else none) (by simp)

/-- Each row of a read that went through read back as its trade. -/
theorem scan_of_scanAll : ∀ {rows : List Row} {ts : List Trade}, scanAll rows = .ok ts →
    ∀ r ∈ rows, Row.scan r = .ok r.trade
  | [], _, _, r, hr => absurd hr List.not_mem_nil
  | r :: rows, ts, h, r', hr' => by
    unfold scanAll at h
    rw [List.mapM_cons] at h
    rcases hr : Row.scan r with f | t
    · rw [hr] at h
      cases h
    rw [hr] at h
    rcases hs : List.mapM (fun r => (Row.scan r).mapError (·.wrap "scan trade: ")) rows with
      f | ts'
    · rw [hs] at h
      cases h
    rcases List.mem_cons.mp hr' with rfl | hr'
    · rw [hr, Row.scan_ok hr]
    · exact scan_of_scanAll hs r' hr'

/-- Rows that each read back as their trade read back as their trades. -/
theorem scanAll_of_scan : ∀ {rows : List Row}, (∀ r ∈ rows, Row.scan r = .ok r.trade) →
    scanAll rows = .ok (rows.map (·.trade))
  | [], _ => rfl
  | r :: rows, h => by
    have ih : scanAll rows = .ok (rows.map (·.trade)) :=
      scanAll_of_scan fun r' hr' => h r' (List.mem_cons_of_mem r hr')
    unfold scanAll at ih ⊢
    rw [List.mapM_cons, h r List.mem_cons_self, ih]
    rfl

/-- The closed trades listed after a run's corrections, at a time with a four-digit year, are
the trades listed before, each corrected, in the same order. -/
theorem closedSince_withCorrections {trader : String} {since : Instant} {ts : List Trade}
    (cs : List Correction) (hnow : now.hasFourDigitYear = true)
    (h : s.closedSince trader since = .ok ts) :
    (s.withCorrections cs now).closedSince trader since =
      .ok (ts.map (Trade.withCorrections cs now)) := by
  unfold closedSince at h ⊢
  obtain ⟨h, hclosed⟩ := guard_bind_ok h
  simp only [guard, closed_withCorrections, hclosed, Bool.false_eq_true, if_false, pure_bind]
  -- the corrections keep the columns the query filters and sorts on
  rw [withCorrections, List.filter_map, stableSort_map]
  · simp only [Function.comp_def, Row.trade_withCorrections, Row.closeFilled_withCorrections,
      Trade.status_withCorrections, Trade.closedAt_withCorrections,
      Trade.traderId_withCorrections]
    rw [scanAll_of_scan, scanAll_ok h, List.map_map, List.map_map]
    · rfl
    · intro r hr
      obtain ⟨r₀, hr₀, rfl⟩ := List.mem_map.mp hr
      exact Row.scan_withCorrections hnow (scan_of_scanAll h r₀ hr₀)
  · intro a b
    simp

/-- The closed-trades query reads the rows and whether the store is open, nothing else. -/
theorem closedSince_congr {s' : Store} (hrows : s'.rows = s.rows) (hclosed : s'.closed = s.closed)
    (trader : String) (since : Instant) :
    s'.closedSince trader since = s.closedSince trader since := by
  simp only [closedSince, guard, hrows, hclosed]

end Store

end TradeLedger
