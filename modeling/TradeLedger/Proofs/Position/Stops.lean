import TradeLedger.Proofs.Number.Words
import TradeLedger.Proofs.Desk.Run
import TradeLedger.Position.Manager
import TradeLedger.Reconcile.Pnl
import TradeLedger.Ledger.Sync
import TradeLedger.Event.Decode
import Mathlib.Control.Monad.Basic
/-!
# Where exact computations stop

Sizes, prices and profits are summed in exact decimals, and a float with no decimal (an infinity
or NaN) stops the computation: the desk answers with a panic fault. Nothing upstream keeps such
floats out: the frame decoder reads `Inf` and `NaN` as numbers, and a fill writes the reported
quantity and price as they are.

## Main definitions

* `Trade.holdingsFinite`: a trade's size and entry price are finite.

## Theorems

* `aggregate_isOk`, `derivePnl_isOk`, `material_isOk`: each stops exactly on a non-finite float.
* `Desk.positions_stop_iff`: positions stop exactly when their snapshot holds such a trade.
* `infinite_fill_stops_conflict_check`: a frame with an infinite quantity stops the check.
-/

namespace TradeLedger

open Desk

/-- A trade's size and entry price are both finite, so both have decimals. -/
def Trade.holdingsFinite (t : Trade) : Bool := t.size.isFinite && t.entryPrice.isFinite

/-! ### Monadic traversals that complete -/

/-- A fold in `Except` completes exactly when every element passes, when whether a step
completes depends only on its element. -/
theorem Except.isOk_foldlM {ε α β : Type} {f : β → α → Except ε β} {ok : α → Bool}
    (hf : ∀ acc a, (f acc a).isOk = ok a) :
    ∀ (l : List α) (init : β), (l.foldlM f init).isOk = l.all ok := by
  intro l
  induction l with
  | nil => intro init; rfl
  | cons a l ih =>
    intro init
    rw [List.foldlM_cons, List.all_cons]
    have hstep := hf init a
    rcases hfa : f init a with e | acc
    · rw [hfa] at hstep
      simp only [Except.isOk, Except.toBool] at hstep
      simp [← hstep, bind, Except.bind, Except.isOk, Except.toBool]
    · rw [hfa] at hstep
      simp only [Except.isOk, Except.toBool] at hstep
      simp only [bind, Except.bind, ← hstep, Bool.true_and]
      exact ih acc

/-- The loop of `List.filterMapM` in `Except` completes exactly when every element's step
does. -/
theorem Except.isOk_filterMapM {ε α β : Type} (f : α → Except ε (Option β)) :
    ∀ (l : List α) (acc : List β),
      (List.filterMapM.loop f l acc).isOk = l.all fun a => (f a).isOk := by
  intro l
  induction l with
  | nil => intro acc; rfl
  | cons a l ih =>
    intro acc
    simp only [List.filterMapM.loop, List.all_cons]
    rcases f a with e | (_ | b)
    · rfl
    · exact ih acc
    · exact ih (b :: acc)

/-! ### Aggregation -/

theorem Aggregation.push_isOk (trader : String) (acc : Aggregation) (t : Trade) :
    (Aggregation.push trader acc t).isOk = t.holdingsFinite := by
  unfold Aggregation.push Trade.holdingsFinite
  rw [← Decimal.ofFloat_isOk, ← Decimal.ofFloat_isOk]
  simp only
  rcases Decimal.ofFloat t.size <;> rcases Decimal.ofFloat t.entryPrice <;> rfl

theorem aggregate_isOk (trader : String) (ts : List Trade) (exclude : String) :
    (aggregate trader ts exclude).isOk = (ts.filter (·.id != exclude)).all Trade.holdingsFinite := by
  unfold aggregate
  rw [← Except.isOk_foldlM (Aggregation.push_isOk trader) _ {}]
  -- what follows the fold cannot stop
  simp only [bind, Except.bind]
  split
  · rename_i e he
    rw [he]
    rfl
  · rename_i acc hacc
    rw [hacc]
    split <;> rfl

namespace Snapshot

theorem positions_isOk (s : Snapshot) (trader : String) :
    (s.positions trader).isOk =
      s.groups.all fun g => (g.2.filter (·.id != "")).all Trade.holdingsFinite := by
  unfold positions
  have hloop := Except.isOk_filterMapM (fun g : String × List Trade => aggregate trader g.2 "")
    s.groups []
  simp only [aggregate_isOk] at hloop
  rw [← hloop]
  -- the sort after the traversal cannot stop
  simp only [List.filterMapM, bind, Except.bind]
  split
  · rename_i e he
    rw [he]
  · rename_i found hfound
    rw [hfound]
    rfl

theorem positions_isOk_eq_false_iff (s : Snapshot) (trader : String) :
    (s.positions trader).isOk = false ↔
      ∃ g ∈ s.groups, ∃ t ∈ g.2, t.id ≠ "" ∧ t.holdingsFinite = false := by
  rw [positions_isOk, List.all_eq_false]
  constructor
  · rintro ⟨g, hg, hbad⟩
    obtain ⟨t, ht, hfin⟩ := List.all_eq_false.mp (Bool.eq_false_iff.mpr hbad)
    obtain ⟨ht, hid⟩ := List.mem_filter.mp ht
    exact ⟨g, hg, t, ht, by simpa using hid, Bool.eq_false_iff.mpr hfin⟩
  · rintro ⟨g, hg, t, ht, hid, hfin⟩
    refine ⟨g, hg, fun hgood => ?_⟩
    have hkept : t ∈ g.2.filter (·.id != "") := List.mem_filter.mpr ⟨ht, by simpa using hid⟩
    have := List.all_eq_true.mp hgood t hkept
    simp [hfin] at this

end Snapshot

/-! ### Reconciliation -/

theorem derivePnl_isOk (side : TradeSide) (r : Record) (funding : Float) :
    (derivePnl side r funding).isOk =
      (r.realizedPnl.isFinite &&
        (r.hasRealized || (r.closePrice.isFinite && r.openPrice.isFinite && r.size.isFinite)) &&
        r.fee.isFinite && funding.isFinite) := by
  unfold derivePnl
  simp only [← Decimal.ofFloat_isOk]
  -- the realized profit is read even when the prices decide the gross
  rcases Decimal.ofFloat r.realizedPnl <;> rcases Decimal.ofFloat r.fee <;>
    rcases Decimal.ofFloat funding <;> cases r.hasRealized <;>
    rcases Decimal.ofFloat r.closePrice <;> rcases Decimal.ofFloat r.openPrice <;>
    rcases Decimal.ofFloat r.size <;> rfl

theorem material_isOk (stored : Float) (derived : Decimal) (threshold : Float) :
    (material stored derived threshold).isOk = (stored.isFinite && threshold.isFinite) := by
  unfold material
  simp only [← Decimal.ofFloat_isOk]
  rcases Decimal.ofFloat stored <;> rcases Decimal.ofFloat threshold <;> rfl

/-! ### The desk -/

namespace Desk

/-- Positions read a loaded snapshot, compute its positions exactly and mark them. -/
theorem exec_positions_of_snapshot {trader : String} {d : Desk} {S : Snapshot}
    (htrader : trader ≠ "") (hsnap : (exec (snapshot trader) d).1 = .ok S) :
    exec (positions trader) d =
      match S.positions trader with
      | .ok ps => (.ok (ps.map fun p => p.marked (markPrice (exec (snapshot trader) d).2.prices
          p.symbol)), (exec (snapshot trader) d).2)
      | .error m => (.error (Fault.panic m), (exec (snapshot trader) d).2) := by
  generalize hd₁ : (exec (snapshot trader) d).2 = d₁
  have hload : exec (snapshot trader) d = (.ok S, d₁) := by
    rw [← hd₁, ← hsnap]
  unfold positions
  have hne : trader.isEmpty = false := by simpa using htrader
  simp only [hne, Bool.false_eq_true, if_false, exec_bind, hload, exec_exact]
  rcases S.positions trader with m | ps <;> rfl

theorem positions_stop_iff {trader : String} {d : Desk} (htrader : trader ≠ "")
    (hload : (exec (snapshot trader) d).1.isOk) :
    (∃ m, (exec (positions trader) d).1 = .error (Fault.panic m)) ↔
      ∃ S, (exec (snapshot trader) d).1 = .ok S ∧
        ∃ g ∈ S.groups, ∃ t ∈ g.2, t.id ≠ "" ∧ t.holdingsFinite = false := by
  obtain ⟨S, hsnap⟩ : ∃ S, (exec (snapshot trader) d).1 = .ok S := by
    rcases h : (exec (snapshot trader) d).1 with f | S
    · rw [h] at hload
      cases hload
    · exact ⟨S, rfl⟩
  rw [exec_positions_of_snapshot htrader hsnap]
  -- the right side is about the one snapshot the read loads
  have hright : (∃ S', (exec (snapshot trader) d).1 = .ok S' ∧
      ∃ g ∈ S'.groups, ∃ t ∈ g.2, t.id ≠ "" ∧ t.holdingsFinite = false) ↔
      (S.positions trader).isOk = false := by
    rw [Snapshot.positions_isOk_eq_false_iff, hsnap]
    constructor
    · rintro ⟨S', hS', hbad⟩
      cases hS'
      exact hbad
    · exact fun hbad => ⟨S, rfl, hbad⟩
  rw [hright]
  rcases S.positions trader with m | ps
  · exact ⟨fun _ => rfl, fun _ => ⟨m, rfl⟩⟩
  · simp [Except.isOk, Except.toBool]

end Desk

/-- A pending long of half a unit waiting for its entry order to fill. -/
def pendingFill : Trade :=
  { id := "t1", traderId := "alice", symbol := "BTCUSDT", side := .long, size := 0.5,
    entryPrice := 100, status := .pending, exchangeOrderId := "8886774" }

/-- A partial fill of that order whose cumulative quantity is the text `Inf`. -/
def infiniteFillFrame : String :=
  "\x7b\"e\":\"ORDER_TRADE_UPDATE\",\"E\":1700000000100,\"o\":\x7b\"s\":\"BTCUSDT\",\"S\":\"BUY\",\"X\":\"PARTIALLY_FILLED\",\"i\":8886774,\"z\":\"Inf\",\"ap\":\"30000.5\"\x7d\x7d"

/-- The ledger after the frame is decoded and its order reports applied. -/
def afterInfiniteFill : Desk :=
  let d : Desk := { now := none, store := { rows := [Store.Row.ofNew pendingFill] } }
  (Frame.decode infiniteFillFrame.toUTF8.toList).events.foldl (fun d e =>
    match e.payload with
    | .order o => (exec (handleOrder e.eventTime o) d).2
    | _ => d) d

/-- The decoder accepts the infinite quantity, the fill stores it, and the trader's next
conflict check stops on it. -/
theorem infinite_fill_stops_conflict_check :
    ((exec (checkConflict "alice" "BTCUSDT" .long "n") afterInfiniteFill).1.map
        (fun _ => ())).mapError (fun f => (f.kind, f.text)) =
      .error (.panic, "Cannot create a Decimal from +Inf") := by
  decide +kernel

end TradeLedger
