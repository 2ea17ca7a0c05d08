import TradeLedger.Proofs.Position.Invalidation
import Mathlib.Logic.Relation
/-!
# Runs of fills over one trade

Execution reports reach a trade one after another, each folded in by `applyFill`. A run is any
sequence of fills, each with its leg, report and decision: the reports `decideFill` lets through
on the sync path, or forced fills. A fill moves a trade's status along three arrows only: a
pending trade opens once its entry order fills something, fails once the entry order ends with
nothing filled, and a live trade closes once its exit order is filled. A trade out of the live
statuses only records the legs' progress and the event time.

A primary that absorbed other trades grows by its later entry fills, by each rise of the
order's cumulative quantity over a recorded quantity above the tolerance. The first fill after a
recorded quantity of zero adds nothing, since the merge already counted the requested size.

## Main definitions

* `TradeStatus.Moves`: the status changes fills make.
* `mergedGrowth`: what entry fills add to a merged primary.

## Theorems

* `fills_follow_lifecycle`: a run moves the status along the arrows, and only records progress
  once the trade is out of the live statuses.
* `merged_size_telescopes`: a primary merged before any fill grows by the rises after its first
  report, so its final size depends on how much that report filled.
* `partial_first_fill_grows_merged_primary`: the order filled at once or half first.
-/

namespace TradeLedger

/-! ### The lifecycle's arrows -/

/-- The status changes fills make: a pending trade opens or fails, and a live trade closes. -/
inductive TradeStatus.Moves : TradeStatus → TradeStatus → Prop
  | opens : Moves .pending .opened
  | fails : Moves .pending .failed
  | closes {s : TradeStatus} : s.live = true → Moves s .closed

/-- The status change a fill of `leg` reporting `o` makes, with what the report says for it: an
entry order that filled something opens a pending trade, one that ended with nothing filled fails
it, and a filled exit order closes a live trade. -/
inductive FillMove : Leg → OrderUpdate → TradeStatus → TradeStatus → Prop
  | opens {o : OrderUpdate} : qtyEpsilon < o.cumulativeQty → FillMove .entry o .pending .opened
  | fails {o : OrderUpdate} : o.status.endsUnfilled = true → ¬ qtyEpsilon < o.cumulativeQty →
      FillMove .entry o .pending .failed
  | closes {o : OrderUpdate} {s : TradeStatus} : s.live = true → o.status = .filled →
      FillMove .exit o s .closed

theorem FillMove.moves {leg : Leg} {o : OrderUpdate} {s s' : TradeStatus}
    (h : FillMove leg o s s') : TradeStatus.Moves s s' := by
  cases h with
  | opens _ => exact .opens
  | fails _ _ => exact .fails
  | closes hl _ => exact .closes hl

/-- No arrow leaves a status that is not live. -/
theorem TradeStatus.Moves.live {s s' : TradeStatus} (h : Moves s s') : s.live = true := by
  cases h with
  | opens => rfl
  | fails => rfl
  | closes hl => exact hl

/-! ### One fill -/

/-- The trade with the legs' recorded progress and its last event time cleared: all that a fill
of a settled trade leaves as it was. -/
def Trade.withoutProgress (t : Trade) : Trade :=
  { t with entryFilledQty := 0, entryOrderStatus := "", exitFilledQty := 0, exitOrderStatus := "",
           lastEventAt := 0 }

section Fill

variable (leg : Leg) (o : OrderUpdate) (dec : FillDecision) (eventTime now : Int)

/-- A fill of a trade out of the live statuses records the legs' progress and nothing more. -/
theorem applyFill_withoutProgress {t : Trade} (h : t.status.live = false) :
    (applyFill t leg o dec eventTime now).1.withoutProgress = t.withoutProgress := by
  unfold applyFill
  cases leg <;> simp only [h, Bool.not_false, if_true] <;> split <;> rfl

/-- A fill keeps the status or moves it along an arrow that its report asks for. -/
theorem applyFill_status_move (t : Trade) :
    (applyFill t leg o dec eventTime now).1.status = t.status ∨
      FillMove leg o t.status (applyFill t leg o dec eventTime now).1.status := by
  cases hl : t.status.live
  · exact .inl (applyFill_status_of_not_live leg o dec eventTime now hl)
  unfold applyFill
  -- the event time is stamped first and keeps the status
  generalize hu : (if eventTime > t.lastEventAt then { t with lastEventAt := eventTime } else t) = u
  have hst : u.status = t.status := by
    subst hu
    split <;> rfl
  cases leg with
  | exit =>
    simp only [hl, Bool.not_true, Bool.false_eq_true, if_false]
    split
    · rename_i hfilled
      right
      -- the exit price is set or not; the status is closed either way
      split <;> exact .closes hl (beq_iff_eq.mp hfilled)
    · exact .inl hst
  | entry =>
    simp only [hl, Bool.not_true, Bool.false_eq_true, if_false]
    split
    · rename_i hqty
      -- the size and entry price change on the way; the status only at the end
      generalize hv : (if u.mergedTradeIds.isEmpty then _ else _) = v
      have hvst : v.status = t.status := by
        subst hv
        split
        · split <;> exact hst
        · split
          · rw [Trade.growMergedEntry_status, hst]
          · exact hst
      split
      · rename_i hpend
        rw [hvst] at hpend
        exact .inr (beq_iff_eq.mp hpend ▸ .opens hqty)
      · exact .inl hvst
    · rename_i hqty
      split
      · rename_i hfail
        simp only [Bool.and_eq_true, beq_iff_eq] at hfail
        rw [hst] at hfail
        exact .inr (hfail.2 ▸ .fails hfail.1 hqty)
      · exact .inl hst

end Fill

/-! ### Runs -/

/-- A fill as it is folded into a trade: the leg, the report, the decision taken on it, the event
time and the clock in milliseconds. -/
structure FillEvent where
  leg : Leg
  order : OrderUpdate
  decision : FillDecision := {}
  eventTime : Int := 0
  now : Int := 0

/-- The trade after a fill. -/
def FillEvent.apply (e : FillEvent) (t : Trade) : Trade :=
  (applyFill t e.leg e.order e.decision e.eventTime e.now).1

/-- The trade after fills, in order. -/
def Trade.applyFills (t : Trade) : List FillEvent → Trade
  | [] => t
  | e :: evs => (e.apply t).applyFills evs

theorem applyFills_status (t : Trade) (evs : List FillEvent) :
    Relation.ReflTransGen TradeStatus.Moves t.status (t.applyFills evs).status := by
  induction evs generalizing t with
  | nil => exact .refl
  | cons e evs ih =>
    refine .trans ?_ (ih (e.apply t))
    rcases applyFill_status_move e.leg e.order e.decision e.eventTime e.now t with h | h
    · rw [FillEvent.apply, h]
    · exact .single h.moves

/-- A trade out of the live statuses stays so over a run, and only its legs' progress moves. -/
theorem applyFills_withoutProgress {t : Trade} (h : t.status.live = false) (evs : List FillEvent) :
    (t.applyFills evs).withoutProgress = t.withoutProgress := by
  induction evs generalizing t with
  | nil => rfl
  | cons e evs ih =>
    have hnext : (e.apply t).status.live = false := by
      rw [FillEvent.apply, applyFill_status_of_not_live _ _ _ _ _ h, h]
    rw [Trade.applyFills, ih hnext, FillEvent.apply, applyFill_withoutProgress _ _ _ _ _ h]

/-- The lifecycle of a trade under fills. Each fill keeps the status or takes the arrow its report
asks for: pending to open on an entry fill, pending to failed on an entry order ended with
nothing filled, pending or open to closed on a filled exit order. Over any run the status follows
these arrows, and a trade out of the live statuses keeps every column but the legs' progress and
the last event time. -/
theorem fills_follow_lifecycle :
    (∀ (t : Trade) (e : FillEvent), (e.apply t).status = t.status ∨
        FillMove e.leg e.order t.status (e.apply t).status) ∧
      ∀ (t : Trade) (evs : List FillEvent),
        Relation.ReflTransGen TradeStatus.Moves t.status (t.applyFills evs).status ∧
          (t.status.live = false → (t.applyFills evs).withoutProgress = t.withoutProgress) :=
  ⟨fun t e => applyFill_status_move e.leg e.order e.decision e.eventTime e.now t,
    fun t evs => ⟨applyFills_status t evs, fun h => applyFills_withoutProgress h evs⟩⟩

/-- A trade of 1 at 100 merged away, with entry order `400`. -/
def mergedAwayTrade : Trade :=
  { id := "m", status := .merged, size := 1, entryPrice := 100, exchangeOrderId := "400" }

/-- The merged-away trade's entry order fills to 3 at 120: the fill is recorded on the entry leg,
and the size of 1 at 100 and the status stay. -/
theorem merged_away_trade_records_progress_only :
    (mergedAwayTrade.applyFills
        [⟨.entry, { orderId := "400", status := .filled, cumulativeQty := 3, avgPrice := 120 },
          {}, 1, 0⟩]).withoutProgress = mergedAwayTrade.withoutProgress :=
  (fills_follow_lifecycle.2 _ _).2 (by decide)


/-- A fill of a trade out of the live statuses leaves it so, over any run. -/
theorem applyFills_live {t : Trade} {evs : List FillEvent}
    (h : (t.applyFills evs).status.live = true) : t.status.live = true := by
  cases hl : t.status.live
  · have hst : (t.applyFills evs).withoutProgress.status = t.withoutProgress.status :=
      congrArg Trade.status (applyFills_withoutProgress hl evs)
    -- clearing the progress keeps the status
    change (t.applyFills evs).status = t.status at hst
    rw [hst, hl] at h
    exact h
  · rfl

/-! ### The sync path -/

/-- A report as the sync path folds it into a trade: the leg, the report, the event time and the
clock in milliseconds. -/
structure FillReport where
  leg : Leg
  order : OrderUpdate
  eventTime : Int := 0
  now : Int := 0

/-- A report decided against the trade as it stands, and folded in only when it applies. -/
def FillReport.take (r : FillReport) (t : Trade) : Trade :=
  let d := decideFill t r.leg r.order r.eventTime
  if d.apply then (applyFill t r.leg r.order d r.eventTime r.now).1 else t

/-- The trade after reports, in order, as the sync path takes them. -/
def Trade.takeReports (t : Trade) : List FillReport → Trade
  | [] => t
  | r :: rs => (r.take t).takeReports rs

/-! ### Merged primaries -/

/-- What entry fills reporting the cumulative quantities `qs` in turn add to a merged primary whose
recorded quantity is `prev`: each rise above a positive recorded quantity by more than the
tolerance. A fill after a recorded quantity of zero adds nothing. -/
def mergedGrowth (prev : Float) : List Float → List Float
  | [] => []
  | q :: qs =>
    (if qtyEpsilon < q ∧ qtyEpsilon < prev ∧ ¬ q - prev ≤ qtyEpsilon then [q - prev] else []) ++
      mergedGrowth q qs

theorem mergedGrowth_cons (prev q : Float) (qs : List Float) :
    mergedGrowth prev (q :: qs) = mergedGrowth prev [q] ++ mergedGrowth q qs := by
  simp only [mergedGrowth, List.append_nil]

theorem Trade.growMergedEntry_size (t : Trade) (o : OrderUpdate) (delta : Float) :
    (t.growMergedEntry o delta).size = if delta ≤ qtyEpsilon then t.size else t.size + delta := by
  unfold Trade.growMergedEntry
  split <;> rfl

section Merged

variable (o : OrderUpdate) (dec : FillDecision) (eventTime now : Int)

theorem applyFill_entryFilledQty (t : Trade) :
    (applyFill t .entry o dec eventTime now).1.entryFilledQty = o.cumulativeQty := by
  unfold applyFill Trade.growMergedEntry
  simp only [apply_ite Prod.fst, apply_ite Trade.entryFilledQty, ite_self]

theorem applyFill_mergedTradeIds (t : Trade) (leg : Leg) :
    (applyFill t leg o dec eventTime now).1.mergedTradeIds = t.mergedTradeIds := by
  unfold applyFill
  generalize hu : (if eventTime > t.lastEventAt then { t with lastEventAt := eventTime } else t) = u
  have hids : u.mergedTradeIds = t.mergedTradeIds := by
    subst hu
    split <;> rfl
  unfold Trade.growMergedEntry
  cases leg <;> simp only [apply_ite Prod.fst, apply_ite Trade.mergedTradeIds, hids, ite_self]

/-- An entry fill of a live merged primary adds what `mergedGrowth` counts for it. -/
theorem applyFill_merged_size {t : Trade} (hl : t.status.live = true)
    (hm : t.mergedTradeIds ≠ []) :
    (applyFill t .entry o dec eventTime now).1.size =
      (mergedGrowth t.entryFilledQty [o.cumulativeQty]).foldl (· + ·) t.size := by
  have hne : t.mergedTradeIds.isEmpty = false := List.isEmpty_eq_false_iff.mpr hm
  unfold applyFill
  -- the stamped trade has the size, ids and recorded quantity of the trade
  generalize hu : (if eventTime > t.lastEventAt then { t with lastEventAt := eventTime } else t) = u
  obtain ⟨hsize, hids, hqty⟩ : u.size = t.size ∧ u.mergedTradeIds = t.mergedTradeIds ∧
      u.entryFilledQty = t.entryFilledQty := by
    subst hu
    split <;> exact ⟨rfl, rfl, rfl⟩
  simp only [hl, Bool.not_true, Bool.false_eq_true, if_false, mergedGrowth, List.append_nil]
  by_cases hq : qtyEpsilon < o.cumulativeQty
  · simp only [hq, if_true, hids, hne, Bool.false_eq_true, if_false, true_and]
    -- the primary grows only from a positive recorded quantity
    by_cases hp : qtyEpsilon < t.entryFilledQty
    · simp only [gt_iff_lt, hqty, hp, if_true, true_and]
      split <;> split <;> simp_all [Trade.growMergedEntry_size]
    · simp only [gt_iff_lt, hqty, hp, if_false, false_and, List.foldl_nil]
      split <;> exact hsize
  · simp only [hq, if_false, false_and, List.foldl_nil]
    split <;> exact hsize

end Merged

/-- The size of a merged primary after a run of entry fills that leaves it live: its size before
plus, in order, every rise of the recorded quantity above a positive one. -/
theorem mergedSize_after_entryFills (t : Trade) (evs : List FillEvent)
    (hmerged : t.mergedTradeIds ≠ []) (hentry : ∀ e ∈ evs, e.leg = .entry)
    (hlive : (t.applyFills evs).status.live = true) :
    (t.applyFills evs).size =
      (mergedGrowth t.entryFilledQty (evs.map (·.order.cumulativeQty))).foldl (· + ·) t.size := by
  induction evs generalizing t with
  | nil => rfl
  | cons e evs ih =>
    have hleg : e.leg = .entry := hentry e List.mem_cons_self
    have happly : e.apply t = (applyFill t .entry e.order e.decision e.eventTime e.now).1 := by
      rw [FillEvent.apply, hleg]
    -- the fill keeps the primary merged and records the reported quantity
    have hm' : (e.apply t).mergedTradeIds ≠ [] := by
      rw [happly, applyFill_mergedTradeIds]
      exact hmerged
    have hrest := ih (e.apply t) hm' (fun e' he' => hentry e' (List.mem_cons_of_mem _ he')) hlive
    rw [Trade.applyFills, hrest, List.map_cons, mergedGrowth_cons, List.foldl_append, happly,
      applyFill_entryFilledQty, applyFill_merged_size _ _ _ _ (applyFills_live hlive) hmerged]

/-- From a recorded quantity above the tolerance, over reports above it that each rise by more
than it, a merged primary grows by every rise, the first one from the recorded quantity. -/
theorem mergedGrowth_rising : ∀ {prev : Float} {qs : List Float}, qtyEpsilon < prev →
    (prev :: qs).IsChain (fun a b => ¬ b - a ≤ qtyEpsilon) → (∀ q ∈ qs, qtyEpsilon < q) →
    mergedGrowth prev qs = List.zipWith (fun a b => b - a) (prev :: qs) qs
  | _, [], _, _, _ => rfl
  | prev, q :: qs, hprev, hchain, hpos => by
    rw [List.isChain_cons_cons] at hchain
    have hq := hpos q List.mem_cons_self
    rw [mergedGrowth, if_pos ⟨hq, hprev, hchain.1⟩,
      mergedGrowth_rising hq hchain.2 fun q' h => hpos q' (List.mem_cons_of_mem _ h)]
    rfl

/-- A primary merged before any fill, under entry reports above the tolerance that each raise
the filled quantity by more than it: the first report finds nothing recorded and adds nothing,
and every later one adds its rise over the report before. The rises after the first report add
up, in exact arithmetic, to the last quantity less the first, so the final size depends on how
much the first chunk filled: nothing is added when it fills the order at once. -/
theorem merged_size_telescopes (t : Trade) (evs : List FillEvent)
    (hmerged : t.mergedTradeIds ≠ []) (hfresh : ¬ qtyEpsilon < t.entryFilledQty)
    (hentry : ∀ e ∈ evs, e.leg = .entry) (hlive : (t.applyFills evs).status.live = true)
    (hpos : ∀ e ∈ evs, qtyEpsilon < e.order.cumulativeQty)
    (hrise : (evs.map (·.order.cumulativeQty)).IsChain fun a b => ¬ b - a ≤ qtyEpsilon) :
    (t.applyFills evs).size =
      (List.zipWith (fun a b => b - a) (evs.map (·.order.cumulativeQty))
        (evs.map (·.order.cumulativeQty)).tail).foldl (· + ·) t.size := by
  rw [mergedSize_after_entryFills t evs hmerged hentry hlive]
  cases evs with
  | nil => rfl
  | cons e evs =>
    have hq : qtyEpsilon < e.order.cumulativeQty := hpos e List.mem_cons_self
    have hrest : ∀ q ∈ evs.map (·.order.cumulativeQty), qtyEpsilon < q := by
      intro q hq'
      obtain ⟨e', he', rfl⟩ := List.mem_map.1 hq'
      exact hpos e' (List.mem_cons_of_mem _ he')
    -- the first report adds nothing; the later ones rise from it
    rw [List.map_cons, mergedGrowth, if_neg fun h => hfresh h.2.1, List.nil_append,
      mergedGrowth_rising hq hrise hrest]
    rfl

/-- A long primary of 1 at 100 on entry order `500` that absorbed a trade of 1 before any fill:
2 at 105, still pending. -/
def mergedPendingPrimary : Trade :=
  { id := "p", traderId := "gus", symbol := "BTCUSDT", side := .long, size := 2, entryPrice := 105,
    status := .pending, mergedTradeIds := ["absorbed-1"], exchangeOrderId := "500" }

/-- A report of entry order `500` with `qty` filled so far, at 101. -/
def entryOrderReport (status : OrderStatus) (qty : Float) : OrderUpdate :=
  { symbol := "BTCUSDT", orderId := "500", side := .buy, status, cumulativeQty := qty,
    avgPrice := 101, lastPrice := 101 }

/-- Half the entry order and then the rest: the first half finds nothing recorded and adds
nothing, the rest is added. -/
theorem half_then_rest_adds_rest :
    (mergedPendingPrimary.applyFills [⟨.entry, entryOrderReport .partiallyFilled 0.5, {}, 1, 0⟩,
      ⟨.entry, entryOrderReport .filled 1, {}, 2, 0⟩]).size = 2 + (1 - 0.5) := by
  rw [merged_size_telescopes _ _ (by decide) (by decide) (by decide) (by decide) (by decide)
    (by decide)]
  decide

/-- The entry order of a primary merged before any fill, filled whole at once or half first: both
runs of reports, as the sync path takes them, end with the order filled to 1, yet the primary keeps
its aggregate of 2 only in the first; in the second the later half is added to it. -/
theorem partial_first_fill_grows_merged_primary :
    (mergedPendingPrimary.takeReports [⟨.entry, entryOrderReport .filled 1, 1, 0⟩]).size = 2 ∧
      (mergedPendingPrimary.takeReports [⟨.entry, entryOrderReport .partiallyFilled 0.5, 1, 0⟩,
        ⟨.entry, entryOrderReport .filled 1, 2, 0⟩]).size = 2.5 := by
  decide

end TradeLedger
