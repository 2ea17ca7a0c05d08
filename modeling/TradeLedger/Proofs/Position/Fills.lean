import TradeLedger.Ledger.Sync
import TradeLedger.Proofs.Position.Admission
/-!
# Execution reports keep one live trade per trader and symbol

An execution report folds a fill into the trade it resolves to and writes it back. A fill never
brings its trade back to the live statuses, so one live trade per trader and symbol could only
suffer if the trade written were an old copy of its row. It is not, and a lost write is retried
on a fresh read. The last event time is shared by both legs, so a late report of one leg can be
judged stale against an earlier report of the other.

## Main definitions

* `Store.Current`: every row of the trade's id has its status.

## Theorems

* `applyFill_live`: a fill never brings a trade back to the live statuses.
* `Desk.resolveOrder_current`: the trade an order resolves to is current.
* `Desk.applyOrder_moves`: every write of the retry loop settles the store.
* `late_exit_event_hides_entry_cancel`: an exit report hides a later-stamped entry cancel.
-/

namespace TradeLedger

section Fill

variable (leg : Leg) (o : OrderUpdate) (dec : FillDecision) (eventTime now : Int)

/-- A fold keeps the trade's id and its version: only a write of the row moves the version. -/
theorem applyFill_id_version (t : Trade) : (applyFill t leg o dec eventTime now).1.id = t.id ∧
    (applyFill t leg o dec eventTime now).1.version = t.version := by
  unfold applyFill
  -- the event time is stamped first; every branch then keeps the stamped trade's id and version
  generalize hu : (if eventTime > t.lastEventAt then { t with lastEventAt := eventTime } else t) = u
  have hid : u.id = t.id ∧ u.version = t.version := by
    subst hu
    split <;> exact ⟨rfl, rfl⟩
  -- push the projections through every branch rather than splitting them
  unfold Trade.growMergedEntry
  cases leg <;> simp only [apply_ite Prod.fst, apply_ite Trade.id, apply_ite Trade.version, hid,
    ite_self, and_self]

theorem applyFill_id (t : Trade) : (applyFill t leg o dec eventTime now).1.id = t.id :=
  (applyFill_id_version leg o dec eventTime now t).1

/-- A trade out of the live statuses only records the leg's progress. -/
theorem applyFill_status_of_not_live {t : Trade} (h : t.status.live = false) :
    (applyFill t leg o dec eventTime now).1.status = t.status := by
  unfold applyFill
  cases leg <;> simp only [h, Bool.not_false, if_true] <;> split <;> rfl

/-- A fill never brings a trade back to the live statuses. -/
theorem applyFill_live {t : Trade} (h : (applyFill t leg o dec eventTime now).1.status.live = true) :
    t.status.live = true := by
  cases hl : t.status.live
  · rw [applyFill_status_of_not_live leg o dec eventTime now hl, hl] at h
    exact h
  · rfl

/-- A report of either leg moves the trade's last event time, which both legs share. -/
theorem applyFill_lastEventAt (t : Trade) :
    (applyFill t leg o dec eventTime now).1.lastEventAt = max t.lastEventAt eventTime := by
  unfold applyFill
  generalize hu : (if eventTime > t.lastEventAt then { t with lastEventAt := eventTime } else t) = u
  have hlast : u.lastEventAt = max t.lastEventAt eventTime := by
    subst hu
    split
    · dsimp only
      omega
    · omega
  unfold Trade.growMergedEntry
  cases leg <;> simp only [apply_ite Prod.fst, apply_ite Trade.lastEventAt, hlast, ite_self]

end Fill

namespace Store

/-- Every row of the trade's id has the trade's status: a read of the trade that is still
current as far as its status goes. -/
def Current (s : Store) (t : Trade) : Prop :=
  ∀ r ∈ s.rows, r.trade.id = t.id → r.trade.status = t.status

/-- The trade of a stored row is current when ids are not repeated. -/
theorem current_of_mem {s : Store} (hnd : (s.rows.map (·.trade.id)).Nodup) {r : Row}
    (hr : r ∈ s.rows) : s.Current r.trade := by
  intro r' hr' hid
  rw [List.inj_on_of_nodup_map hnd hr' hr hid]

theorem Current.of_backfill {s s' : Store} {t : Trade} (hcur : s.Current t) {now : Instant}
    {id : String} {leg : Leg} {orderId : String} (h : s.backfill now id leg orderId = .ok s') :
    s'.Current t := by
  intro r' hr' hid
  obtain ⟨r, hr, hid', hst⟩ := backfill_rows h r' hr'
  rw [hst]
  exact hcur r hr (hid'.symm.trans hid)

end Store

namespace Desk

variable {P : List String}

/-- Steps after which a trade current before is current still. -/
theorem current_frame (t : Trade) :
    Frame fun d d' : Desk => d.store.Current t → d'.store.Current t where
  refl := fun _ h => h
  trans := fun h₁ h₂ h => h₂ (h₁ h)
  metrics := fun _ _ h => h
  cooldowns := fun _ _ h => h
  trip := fun _ _ h => h
  drop := fun _ _ h => h

section Resolve

variable {R : Desk → Desk → Prop} (hR : Frame R)
include hR

theorem Frame.keeps_findByIds (ids : List String) : Keeps R (findByIds ids) := by
  induction ids with
  | nil => exact hR.keeps_pure _
  | cons id rest ih =>
    unfold findByIds
    refine keeps_ite ih ?_
    refine hR.keeps_bind (hR.keeps_attempt (hR.keeps_read _ _)) fun res => ?_
    rcases res with f | t
    · exact keeps_ite ih (hR.keeps_throw _)
    · exact hR.keeps_pure _

theorem Frame.keeps_scanPayloads (o : OrderUpdate) : Keeps R (scanPayloads o) := by
  unfold scanPayloads
  refine hR.keeps_bind hR.keeps_get fun d => hR.keeps_bind (hR.keeps_read _ _) fun recent => ?_
  split
  · exact hR.keeps_pure _
  · exact hR.keeps_throw _

/-- Resolving an order keeps a frame that a back-fill of an order id keeps. -/
theorem Frame.keeps_resolveOrder
    (hback : ∀ d s now id leg orderId, d.store.backfill now id leg orderId = .ok s →
      R d { d with store := s }) (o : OrderUpdate) : Keeps R (resolveOrder o) := by
  unfold resolveOrder
  refine hR.keeps_bind (hR.keeps_findByIds _) fun found => ?_
  rcases found with _ | t
  · refine hR.keeps_bind (hR.keeps_scanPayloads o) fun t =>
      hR.keeps_bind (hR.keeps_tally _) fun _ => keeps_ite ?_ (hR.keeps_pure _)
    refine hR.keeps_bind hR.keeps_clock fun now =>
      hR.keeps_bind (hR.keeps_ignoring (hR.keeps_change fun d s h => hback d s _ _ _ _ h))
        fun _ => hR.keeps_pure _
  · exact hR.keeps_pure _

end Resolve

theorem keeps_resolveOrder (o : OrderUpdate) : Keeps (Moves P) (resolveOrder o) :=
  moves_frame.keeps_resolveOrder (fun _ _ _ _ _ _ hb => moves_store fun _ => Store.settles_backfill hb) o

/-- A trade found by one of the ids is the trade of a stored row. -/
theorem findByIds_row {ids : List String} {d d' : Desk} {t : Trade}
    (h : exec (findByIds ids) d = (.ok (some t), d')) : ∃ r ∈ d.store.rows, r.trade = t := by
  induction ids generalizing d with
  | nil => cases h
  | cons id rest ih =>
    unfold findByIds at h
    split at h
    · exact ih h
    · obtain ⟨res, d₁, h₁, h⟩ := exec_bind_ok h
      have hstore : d₁.store = d.store :=
        (store_frame.keeps_attempt (store_frame.keeps_read _ _)).of_exec h₁
      rcases res with f | t'
      · dsimp only at h
        split at h
        · rw [← hstore]
          exact ih h
        · simp at h
      · simp only [exec_pure, Prod.mk.injEq, Except.ok.injEq, Option.some.injEq] at h
        obtain ⟨rfl, -⟩ := h
        exact Store.findByOrder_ok (exec_read_ok (exec_attempt_ok h₁))

theorem scanPayloads_row {o : OrderUpdate} {d d' : Desk} {t : Trade}
    (h : exec (scanPayloads o) d = (.ok t, d')) : ∃ r ∈ d.store.rows, r.trade = t := by
  unfold scanPayloads at h
  rw [exec_bind, exec_get] at h
  dsimp only at h
  obtain ⟨recent, d₁, h₁, h⟩ := exec_bind_ok h
  split at h
  · rename_i hfind
    simp only [exec_pure, Prod.mk.injEq, Except.ok.injEq] at h
    obtain ⟨rfl, -⟩ := h
    exact Store.recentRaw_ok (exec_read_ok h₁) _ (List.mem_of_find?_eq_some hfind)
  · simp at h

theorem resolveOrder_row {o : OrderUpdate} {d d' : Desk} {t : Trade} {leg : Leg}
    (h : exec (resolveOrder o) d = (.ok (t, leg), d')) : ∃ r ∈ d.store.rows, r.trade = t := by
  unfold resolveOrder at h
  obtain ⟨found, d₁, h₁, h⟩ := exec_bind_ok h
  rcases found with _ | t'
  · obtain ⟨t', d₂, h₂, h⟩ := exec_bind_ok h
    have hstore : d₁.store = d.store := (store_frame.keeps_findByIds _).of_exec h₁
    -- what follows the scan only counts and back-fills, and answers the trade scanned
    have ht : t' = t := by
      obtain ⟨⟨⟩, d₃, -, h⟩ := exec_bind_ok h
      split at h
      · obtain ⟨now, d₄, -, h⟩ := exec_bind_ok h
        obtain ⟨⟨⟩, d₅, -, h⟩ := exec_bind_ok h
        simp only [exec_pure, Prod.mk.injEq, Except.ok.injEq] at h
        exact h.1.1
      · simp only [exec_pure, Prod.mk.injEq, Except.ok.injEq] at h
        exact h.1.1
    subst ht
    rw [← hstore]
    exact scanPayloads_row h₂
  · simp only [exec_pure, Prod.mk.injEq, Except.ok.injEq] at h
    obtain ⟨⟨rfl, -⟩, -⟩ := h
    exact findByIds_row h₁

/-- The trade an order resolves to is current where the resolution leaves the desk. -/
theorem resolveOrder_current {o : OrderUpdate} {d d' : Desk} {t : Trade} {leg : Leg}
    (h : exec (resolveOrder o) d = (.ok (t, leg), d'))
    (hnd : (d.store.rows.map (·.trade.id)).Nodup) : d'.store.Current t := by
  obtain ⟨r, hr, rfl⟩ := resolveOrder_row h
  exact ((current_frame r.trade).keeps_resolveOrder
    (fun _ _ _ _ _ _ hb hcur => hcur.of_backfill hb) o).of_exec h (Store.current_of_mem hnd hr)

/-- A fill written over a current read of the trade moves the desk. -/
theorem moves_writeFill {d : Desk} {now : Instant} {t : Trade} {leg : Leg} {o : OrderUpdate}
    {dec : FillDecision} {eventTime ms : Int} (hcur : OneLive P d → d.store.Current t) :
    Moves P d (exec (write .updateFill fun s =>
      s.updateFill now (applyFill t leg o dec eventTime ms).1) d).2 := by
  intro hinv
  rw [exec_write]
  rcases (d.plan.trip .updateFill).2 with _ | f
  · rcases hop : d.store.updateFill now (applyFill t leg o dec eventTime ms).1 with f | ⟨t', s⟩
    · exact moves_frame.trip d _ hinv
    · -- the written trade is live only if the stored row was
      have hlive : ∀ r ∈ d.store.rows, r.trade.id = (applyFill t leg o dec eventTime ms).1.id →
          (applyFill t leg o dec eventTime ms).1.status.live = true → r.trade.status.live = true := by
        intro r hr hid hl
        rw [hcur hinv r hr (hid.trans (applyFill_id ..))]
        exact applyFill_live _ _ _ _ _ hl
      exact moves_frame.trans (moves_frame.trip d _)
        (moves_store fun _ => Store.settles_updateFill hlive hop) hinv
  · exact moves_frame.trip d _ hinv

/-- Folding a report into a trade moves the desk, from a current read of the trade: a lost write
is retried on a read of the trade, which is current again. -/
theorem applyOrder_moves (o : OrderUpdate) (leg : Leg) (eventTime : Int) (n : Nat) :
    ∀ (t : Trade) (d : Desk), (OneLive P d → d.store.Current t) →
      Moves P d (exec (applyOrder o leg eventTime n t) d).2 := by
  induction n with
  | zero => exact fun _ d _ => moves_frame.refl d
  | succ n ih =>
    intro t d hcur
    unfold applyOrder
    dsimp only
    split
    · exact moves_frame.keeps_bind (moves_frame.keeps_tally _) (fun _ => moves_frame.keeps_pure _) d
    · rw [exec_bind, exec_clock]
      dsimp only
      rw [exec_bind]
      have hw : Moves P d (exec (write .updateFill fun s => s.updateFill d.now
          (applyFill t leg o (decideFill t leg o eventTime) eventTime d.now.toMs).1) d).2 :=
        moves_writeFill hcur
      rw [← exec_attempt_desk] at hw
      split
      · rename_i res d₂ hx
        rw [hx] at hw
        refine moves_frame.trans hw ?_
        rcases res with f | written
        · -- a lost write is retried on the trade read again
          dsimp only
          split
          · rw [exec_bind]
            split
            · rename_i fresh d₃ hread
              have hstore : d₃.store = d₂.store :=
                (store_frame.keeps_within _ (store_frame.keeps_read _ _)).of_exec hread
              refine moves_frame.trans
                ((moves_frame.keeps_within _ (moves_frame.keeps_read _ _)).of_exec hread)
                (ih fresh d₃ fun hinv₃ => ?_)
              obtain ⟨r, hfind, rfl⟩ := Store.get_ok (exec_read_ok (exec_within_ok hread))
              exact Store.current_of_mem hinv₃.nodup (hstore ▸ (Store.find?_some hfind).1)
            · rename_i e d₃ hread
              exact (moves_frame.keeps_within _ (moves_frame.keeps_read _ _)).of_exec hread
          · exact moves_frame.refl d₂
        · exact moves_frame.keeps_bind (moves_frame.keeps_tally _)
            (fun _ => keeps_ite (moves_frame.keeps_invalidate _) (moves_frame.keeps_pure _)) d₂
      · rename_i e d₂ hx
        rw [hx] at hw
        exact hw

/-- An execution report moves the desk: the trade it resolves to is current, and each fill
written over it settles the store. -/
theorem keeps_handleOrder (eventTime : Int) (o : OrderUpdate) :
    Keeps (Moves P) (handleOrder eventTime o) := by
  intro d hinv
  unfold handleOrder
  rw [exec_bind, exec_tally]
  dsimp only
  rw [exec_bind]
  split
  · rename_i res d₁ hres
    have hmoves : Moves P d d₁ := moves_frame.trans (moves_frame.metrics d _)
      ((moves_frame.keeps_attempt (keeps_resolveOrder o)).of_exec hres)
    refine moves_frame.trans hmoves ?_ hinv
    rcases res with f | ⟨t, leg⟩
    · exact keeps_ite (moves_frame.keeps_tally _) (moves_frame.keeps_throw _) d₁
    · exact applyOrder_moves o leg _ 2 t d₁ fun _ =>
        resolveOrder_current (exec_attempt_ok hres) hinv.nodup
  · rename_i e d₁ hres
    exact moves_frame.trans (moves_frame.metrics d _)
      ((moves_frame.keeps_attempt (keeps_resolveOrder o)).of_exec hres) hinv

end Desk

end TradeLedger
