import TradeLedger.Proofs.Position.Invalidation
import TradeLedger.Proofs.Position.Session
import TradeLedger.Proofs.Reconcile.CloseIds
/-!
# Snapshot reads over a ledger's life

A ledger lives through requests to its desk, execution reports among them, and reconciliation
runs, in any order. A snapshot read by admission, a replacement or the listing of positions
should show exactly the trader's live trades among those that existed when it was loaded. Two
requests can change liveness without dropping the snapshot: an admission of a new trade whose id
names another trader's row, and a report that ends a pending trade's entry order without a fill.
The second is no misuse: the next conflict check builds a position from the dead trade.

## Main definitions

* `Activity`: a request or a reconciliation run; `Tracked` bounds the requests.

## Theorems

* `Desk.keeps_reconcile_quiet`: a run writes only reconciled profits and the audit trail.
* `snapshot_agrees_after_run`: after any tracked run, a snapshot read agrees with the store.
* `cancelled_entry_stays_cached`: a cancelled entry stays in the cached snapshot.
-/

namespace TradeLedger

/-! ### Reconciliation runs leave every trader as it was -/

namespace Desk

/-- A step that keeps the rows, the cached snapshots and the staged failures. -/
theorem quiet_of_eq {d d' : Desk} (hrows : d'.store.rows = d.store.rows)
    (hsnap : d'.snapshots = d.snapshots) (hplan : d'.plan = d.plan) : Quiet d d' :=
  ⟨hrows ▸ List.forall₂_same.mpr fun r _ => Row.Leaves.refl r, fun _ _ => .inl (by rw [hsnap]),
    fun h => hplan ▸ h⟩

theorem keeps_adjust_quiet (f : Reconciler → Reconciler) : Keeps Quiet (adjust f) :=
  keeps_modify fun _ => quiet_of_eq rfl rfl rfl

theorem keeps_engine_quiet : Keeps Quiet engine :=
  quiet_frame.keeps_bind quiet_frame.keeps_get fun _ => quiet_frame.keeps_pure _

theorem keeps_checkContext_quiet : Keeps Quiet checkContext := by
  unfold checkContext
  refine quiet_frame.keeps_bind keeps_engine_quiet fun r => ?_
  split
  · exact quiet_frame.keeps_throw _
  · exact quiet_frame.keeps_pure _

theorem keeps_audit_quiet (op : WriteOp Statement) : Keeps Quiet (audit op) := by
  refine keeps_modify fun d => ?_
  split
  · exact quiet_frame.refl d
  · rename_i w _
    refine quiet_of_eq ?_ rfl rfl
    exact BatchWriter.write_preserves (fun s : Store => s.rows = d.store.rows) w Store.commitBatch
      d.store op (fun ops s hs => (Store.commitBatch_rows ops s).trans hs) rfl

theorem keeps_pace_quiet : Keeps Quiet pace := by
  unfold pace
  refine quiet_frame.keeps_bind keeps_checkContext_quiet fun _ =>
    quiet_frame.keeps_bind keeps_engine_quiet fun r => ?_
  split
  · exact keeps_adjust_quiet _
  · exact quiet_frame.keeps_throw _

theorem keeps_askHistory_quiet (symbol : String) (start stop : Int) :
    Keeps Quiet (askHistory symbol start stop) := by
  unfold askHistory
  refine quiet_frame.keeps_bind (keeps_adjust_quiet _) fun _ =>
    quiet_frame.keeps_bind keeps_engine_quiet fun r => ?_
  split
  · exact quiet_frame.keeps_pure _
  · exact quiet_frame.keeps_throw _

theorem keeps_fundingOf_quiet (t : Trade) (rec : Record) : Keeps Quiet (fundingOf t rec) := by
  unfold fundingOf askFunding
  refine quiet_frame.keeps_bind keeps_engine_quiet fun r => ?_
  split
  · split
    · exact quiet_frame.keeps_pure _
    · refine quiet_frame.keeps_bind (keeps_adjust_quiet _) fun _ => ?_
      split
      · exact quiet_frame.keeps_pure _
      · exact quiet_frame.keeps_throw _
  · exact quiet_frame.keeps_pure _

theorem keeps_count_quiet (f : Report → Report) : Keeps Quiet (count f) := keeps_adjust_quiet _

theorem keeps_updateReconciled_quiet (now : Instant) (id : String) (pnl : Float) (closeId : String)
    (stamp : Instant) :
    Keeps Quiet (change .updateReconciled fun s => s.updateReconciled now id pnl closeId stamp) :=
  quiet_frame.keeps_change fun _ _ h => Leaves.of_store (Store.quiet_updateReconciled h)

/-- A correction writes the reconciled profit, which keeps every status. -/
theorem keeps_correct_quiet (cfg : ReconcileConfig) (t : Trade) (rec : Record) (relaxed : Bool)
    (funding : Float) : Keeps Quiet (correct cfg t rec relaxed funding) := by
  unfold correct
  refine quiet_frame.keeps_bind (quiet_frame.keeps_exact _) fun derived =>
    quiet_frame.keeps_bind (quiet_frame.keeps_exact _) fun m =>
      keeps_ite (quiet_frame.keeps_pure _) ?_
  refine quiet_frame.keeps_bind keeps_engine_quiet fun r => ?_
  dsimp only
  refine keeps_ite ?_ (keeps_count_quiet _)
  exact quiet_frame.keeps_bind quiet_frame.keeps_clock fun now =>
    quiet_frame.keeps_bind (keeps_updateReconciled_quiet _ _ _ _ _) fun _ =>
      quiet_frame.keeps_bind (keeps_count_quiet _) fun _ => keeps_count_quiet _

theorem keeps_reconcileTrade_quiet (t : Trade) : Keeps Quiet (reconcileTrade t) := by
  unfold reconcileTrade
  refine keeps_ite (quiet_frame.keeps_bind (keeps_count_quiet _) fun _ => quiet_frame.keeps_pure _) ?_
  refine quiet_frame.keeps_bind keeps_pace_quiet fun _ => quiet_frame.keeps_bind keeps_engine_quiet fun r => ?_
  dsimp only
  refine quiet_frame.keeps_bind (keeps_askHistory_quiet _ _ _) fun records =>
    quiet_frame.keeps_bind keeps_engine_quiet fun r' => ?_
  split
  · exact keeps_count_quiet _
  · exact quiet_frame.keeps_bind (keeps_adjust_quiet _) fun _ =>
      quiet_frame.keeps_bind (keeps_count_quiet _) fun _ =>
        quiet_frame.keeps_bind (keeps_fundingOf_quiet _ _) fun _ => keeps_correct_quiet _ _ _ _ _

theorem keeps_reconcileEach_quiet : ∀ ts : List Trade, Keeps Quiet (reconcileEach ts)
  | [] => quiet_frame.keeps_pure _
  | t :: ts => by
    unfold reconcileEach
    refine quiet_frame.keeps_bind keeps_checkContext_quiet fun _ =>
      quiet_frame.keeps_bind (keeps_count_quiet _) fun _ =>
        quiet_frame.keeps_bind (quiet_frame.keeps_attempt (keeps_reconcileTrade_quiet t)) fun r => ?_
    dsimp only
    split
    · exact keeps_reconcileEach_quiet ts
    · exact quiet_frame.keeps_bind keeps_checkContext_quiet fun _ =>
        quiet_frame.keeps_bind (keeps_count_quiet _) fun _ => keeps_reconcileEach_quiet ts

theorem keeps_recordRun_quiet (rep : Report) : Keeps Quiet (recordRun rep) := by
  unfold recordRun
  refine quiet_frame.keeps_bind (keeps_audit_quiet _) fun _ =>
    quiet_frame.keeps_bind (quiet_frame.keeps_forIn (fun c _ => ?_) _ _) fun _ => quiet_frame.keeps_pure _
  exact quiet_frame.keeps_bind (keeps_audit_quiet _) fun _ => quiet_frame.keeps_pure _

theorem keeps_runBody_quiet (runId : String) (opts : RunOptions) : Keeps Quiet (runBody runId opts) := by
  unfold runBody
  dsimp only
  exact quiet_frame.keeps_bind quiet_frame.keeps_clock fun _ =>
    quiet_frame.keeps_bind (keeps_adjust_quiet _) fun _ =>
      quiet_frame.keeps_bind (quiet_frame.keeps_within _ (quiet_frame.keeps_read _ _)) fun trades =>
        quiet_frame.keeps_bind (keeps_adjust_quiet _) fun _ =>
          quiet_frame.keeps_bind (keeps_reconcileEach_quiet trades) fun _ =>
            quiet_frame.keeps_bind quiet_frame.keeps_clock fun _ =>
              quiet_frame.keeps_bind (keeps_count_quiet _) fun _ =>
                quiet_frame.keeps_bind keeps_engine_quiet fun _ =>
                  quiet_frame.keeps_bind (quiet_frame.keeps_tally _) fun _ =>
                    quiet_frame.keeps_bind (keeps_recordRun_quiet _) fun _ => quiet_frame.keeps_pure _

/-- A reconciliation run corrects profits and writes the audit trail, and leaves every trader
as it was. -/
theorem keeps_reconcile_quiet (runId : String) (opts : RunOptions) : Keeps Quiet (reconcile runId opts) := by
  unfold reconcile
  refine quiet_frame.keeps_bind keeps_engine_quiet fun r => ?_
  dsimp only
  refine keeps_ite (quiet_frame.keeps_throw_bind _ _) ?_
  refine quiet_frame.keeps_bind (keeps_adjust_quiet _) fun _ =>
    quiet_frame.keeps_bind (quiet_frame.keeps_tryCatch (keeps_map _ (keeps_runBody_quiet runId opts))
      fun _ => quiet_frame.keeps_pure _) fun result =>
    quiet_frame.keeps_bind (keeps_adjust_quiet _) fun _ => ?_
  split
  · exact quiet_frame.keeps_pure _
  · exact quiet_frame.keeps_throw _

end Desk

/-! ### Runs of requests and reconciliations -/

/-- Rows are only ever added after the others, so a fresh snapshot stays fresh. -/
theorem Snapshot.Fresh.of_append {S : Snapshot} {T : String} {s s' : Store} (hS : S.Fresh T s)
    {extra : List Row} (hrows : s'.rows = s.rows ++ extra) : S.Fresh T s' := by
  obtain ⟨n, hn⟩ := hS
  rw [Snapshot.Fresh, hrows]
  by_cases hle : n ≤ s.rows.length
  · exact ⟨n, by rwa [List.take_append_of_le_length hle]⟩
  · refine ⟨s.rows.length, ?_⟩
    rw [List.take_left]
    rwa [List.take_of_length_le (by omega)] at hn

theorem Desk.fresh_createRow (d : Desk) (freshId : String) (t : Trade) :
    Desk.StaysFresh d (d.createRow freshId t) := by
  intro hf
  unfold Desk.createRow
  split
  · rename_i t' s hc
    obtain ⟨hrows, hnew, -, -⟩ := Store.create_ok hc
    exact {
      nodup := by
        show (s.rows.map (·.trade.id)).Nodup
        rw [hrows, List.map_append]
        exact List.nodup_append.mpr ⟨hf.nodup, List.nodup_singleton _, fun a ha b hb => by
          obtain ⟨r, hr, rfl⟩ := List.mem_map.mp ha
          rw [List.map_singleton, List.mem_singleton] at hb
          exact hb ▸ hnew r hr⟩
      spares := hf.spares
      fresh := fun trader S hk hS => (hf.fresh trader S hk hS).of_append hrows }
  · exact hf

instance (s : Store) (trader id : String) : Decidable (s.Owns trader id) :=
  inferInstanceAs (Decidable (∀ r ∈ s.rows, r.trade.id = id → r.trade.traderId = trader))

namespace Request

open Desk

/-- Every change of liveness the request can make is followed by a drop of the snapshot of the
trader whose trade it is: an admission of a new trade names the trader of the row with the
trade's id, and an execution report does not end its order without a fill. -/
def Tracked : Request → Desk → Prop
  | .process nt, d => d.store.Owns nt.traderId nt.tradeId
  | .order _ o, _ => o.endsWithoutFill = false
  | _, _ => True

instance : (q : Request) → (d : Desk) → Decidable (q.Tracked d)
  | .create .., _ => isTrue trivial
  | .process nt, d => inferInstanceAs (Decidable (d.store.Owns nt.traderId nt.tradeId))
  | .admitById .., _ => isTrue trivial
  | .replace .., _ => isTrue trivial
  | .order _ o, _ => inferInstanceAs (Decidable (o.endsWithoutFill = false))

/-- A tracked request keeps every cached snapshot fresh. -/
theorem serve_fresh {q : Request} {d : Desk} (hq : q.Tracked d) : StaysFresh d (q.serve d).1 := by
  cases q with
  | create freshId t => exact fresh_createRow d freshId t
  | process nt =>
    intro hf
    have hown : d.store.OwnsAll nt.traderId [nt.tradeId] := fun x hx => List.mem_singleton.mp hx ▸ hq
    have hsafe := keeps_processTrade_safe nt d hf hown
    rcases hx : exec (processTrade nt) d with ⟨_ | o, d'⟩ <;> rw [hx] at hsafe <;>
      simp only [serve, hx] <;> exact hsafe.1
  | admitById id =>
    have hfresh := keeps_admitTrade_fresh id d
    rcases hx : exec (admitTrade id) d with ⟨_ | o, d'⟩ <;> rw [hx] at hfresh <;>
      simp only [serve, hx] <;> exact hfresh
  | replace trader symbol side newId => exact keeps_replaceTrade_fresh trader symbol side newId d
  | order eventTime o => exact keeps_handleOrder_fresh eventTime o hq d

end Request

/-- A step in the life of a ledger: a request to the desk, or a reconciliation run. -/
inductive Activity where
  | request (q : Request)
  | reconcile (runId : String) (opts : RunOptions)

namespace Activity

open Desk

/-- The desk an activity leaves. -/
def perform : Activity → Desk → Desk
  | .request q, d => (q.serve d).1
  | .reconcile runId opts, d => (exec (Desk.reconcile runId opts) d).2

/-- The desk a run of activities leaves. -/
def performAll : List Activity → Desk → Desk
  | [], d => d
  | a :: as, d => performAll as (a.perform d)

/-- Every request of a run of activities is tracked where it is served. -/
def Tracked : List Activity → Desk → Prop
  | [], _ => True
  | .request q :: as, d => q.Tracked d ∧ Tracked as (q.serve d).1
  | a :: as, d => Tracked as (a.perform d)

instance decTracked : (as : List Activity) → (d : Desk) → Decidable (Tracked as d)
  | [], _ => isTrue trivial
  | .request q :: as, d =>
    haveI := decTracked as (q.serve d).1
    inferInstanceAs (Decidable (q.Tracked d ∧ Tracked as (q.serve d).1))
  | .reconcile runId opts :: as, d => decTracked as (perform (.reconcile runId opts) d)

theorem perform_fresh {a : Activity} {d : Desk} (ha : ∀ q, a = .request q → q.Tracked d) :
    StaysFresh d (a.perform d) := by
  cases a with
  | request q => exact Request.serve_fresh (ha q rfl)
  | reconcile runId opts => exact (keeps_reconcile_quiet runId opts d).staysFresh

/-- The run lemma: a tracked run keeps every cached snapshot fresh. -/
theorem performAll_fresh : ∀ {as : List Activity} {d : Desk}, Tracked as d →
    StaysFresh d (performAll as d)
  | [], d, _ => staysFresh_frame.refl d
  | .request q :: as, d, ⟨hq, hrest⟩ =>
    staysFresh_frame.trans (perform_fresh fun _ h => by cases h; exact hq) (performAll_fresh hrest)
  | .reconcile runId opts :: as, d, hrest =>
    staysFresh_frame.trans (perform_fresh fun _ h => by cases h) (performAll_fresh hrest)

end Activity

open Desk in
/-- Over any run of requests and reconciliation runs from a ledger with distinct ids, no staged
write failures and nothing cached, where no admission names another trader's row and no report
ends an order without a fill, a later snapshot read shows a trade exactly when its row was stored
when the snapshot loaded and is live and the trader's at the read (every row, when the read loads
it). -/
theorem snapshot_agrees_after_run {as : List Activity} {d : Desk}
    (hnd : (d.store.rows.map (·.trade.id)).Nodup) (hspares : d.plan.sparesWrites)
    (hcache : d.snapshots = []) (htracked : Activity.Tracked as d) {T : String} {S : Snapshot}
    {d' : Desk} (hread : exec (snapshot T) (Activity.performAll as d) = (.ok S, d')) :
    (∃ n, S.Agrees T (d'.store.rows.take n)) ∧
      ((Activity.performAll as d).snapshots.lookup T = none → S.Agrees T d'.store.rows) := by
  have hstart : FreshOutside [] d :=
    ⟨hnd, hspares, fun _ _ _ hS => by simp [hcache] at hS⟩
  exact snapshot_read (Activity.performAll_fresh htracked hstart) hread

/-- A pending long of trader `T`, waiting for its entry order. -/
def pendingLong (id symbol : String) : Trade :=
  { id := id, traderId := "T", symbol := symbol, side := .long, size := 1, entryPrice := 100,
    status := .pending, exchangeOrderId := "e" ++ id }

/-- A long on BTC admitted and its entry order filled, a long on ETH admitted by id, and a
reconciliation run. -/
def fillRun : List Activity :=
  [.request (.create "" (pendingLong "a" "BTC")),
    .request (.process (.ofTrade (pendingLong "a" "BTC"))),
    .request (.order 100
      { symbol := "BTC", orderId := "ea", side := .buy, status := .filled, cumulativeQty := 1,
        avgPrice := 100 }),
    .request (.create "" (pendingLong "b" "ETH")), .request (.admitById "b"),
    .reconcile "r1" {}]

open Desk in
theorem fill_run_snapshot_agrees :
    ∃ S d', exec (snapshot "T") (Activity.performAll fillRun { now := none }) = (.ok S, d') ∧
      (∃ n, S.Agrees "T" (d'.store.rows.take n)) := by
  have hspares : ({ now := none } : Desk).plan.sparesWrites := by
    intro _ h
    cases h
  have hok : (exec (snapshot "T") (Activity.performAll fillRun { now := none })).1.isOk = true := by
    decide +kernel
  rcases hx : exec (snapshot "T") (Activity.performAll fillRun { now := none }) with ⟨_ | S, d'⟩
  · rw [hx] at hok
    cases hok
  · exact ⟨S, d', rfl, (snapshot_agrees_after_run (by decide) hspares rfl (by decide +kernel) hx).1⟩


/-- A pending long on BTC, a replacement of a position on ETH that finds none after caching the
trader's snapshot, and a cancellation of the long's entry order. -/
def cancelRun : List Activity :=
  [.request (.create "" (pendingLong "t" "BTC")), .request (.replace "T" "ETH" .long "t"),
    .request (.order 100 { symbol := "BTC", orderId := "et", side := .buy, status := .canceled })]

open Desk in
/-- The cancellation fails the trade and drops no snapshot, so the next conflict check on BTC
finds a position made of the failed trade. -/
theorem cancelled_entry_stays_cached :
    ¬Activity.Tracked cancelRun { now := none } ∧
      ((Activity.performAll cancelRun { now := none }).store.find? "t").map (·.trade.status) =
        some .failed ∧
      (exec (checkConflict "T" "BTC" .long "n") (Activity.performAll cancelRun { now := none })).1.toOption.map
        (·.map (·.existing.tradeIds)) = some (some ["t"]) := by
  decide +kernel

end TradeLedger
