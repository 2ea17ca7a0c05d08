import TradeLedger.Proofs.Position.Loading
import TradeLedger.Proofs.Position.Fills
import TradeLedger.Proofs.Position.Groups
/-!
# Every change of liveness drops its trader's snapshot

The desk's services write trades in and out of the live statuses: admission rejects, merges and
cancels on a cooldown, a replacement closes a position and promotes the new trade, and an
execution report opens, closes or fails a trade. Each such write must be followed by a drop of
the trader's snapshot on every way out, failures included. An execution report drops it when
its fill opens or closes the trade, but not when it fails a pending trade whose entry order
ended without a fill.

## Main definitions

* `OrderUpdate.endsWithoutFill`: a report that ends its order with nothing filled.

## Theorems

* `Desk.keeps_processTrade_safe`, `Desk.keeps_replace_safe`: the admission services are safe.
* `Desk.keeps_admitTrade_fresh`, `Desk.keeps_replaceTrade_fresh`: they keep every snapshot
  fresh.
* `Desk.keeps_handleOrder_fresh`: so does a report that does not end its order without a fill.
-/

namespace TradeLedger

namespace Desk

section Services

variable {T : String} {xs : List String} {d d' : Desk} {e : Fault}

theorem keeps_markStatus_stale {now : Instant} {id : String} {status : TradeStatus}
    {reason : String} (hid : id ∈ xs) :
    Keeps (Stale T xs) (change .markStatus fun s => s.markStatus now id status reason) :=
  stale_frame.keeps_change fun _ _ hs _ hown => Leaves.of_store (Store.leaves_markStatus (hown id hid) hs)

theorem keeps_markMerged_stale {now : Instant} {id primary reason : String} (hid : id ∈ xs) :
    Keeps (Stale T xs) (change .markMerged fun s => s.markMerged now id primary reason) :=
  stale_frame.keeps_change fun _ _ hs _ hown => Leaves.of_store (Store.leaves_markMerged (hown id hid) hs)

theorem keeps_closeTrade_stale {now : Instant} {id : String} {exit : Float} {stamp : Instant}
    {reason : String} (hid : id ∈ xs) :
    Keeps (Stale T xs) (change .closeTrade fun s => s.closeTrade now id exit stamp reason) :=
  stale_frame.keeps_change fun _ _ hs _ hown => Leaves.of_store (Store.leaves_closeTrade (hown id hid) hs)

theorem quiet_of_write_error {α : Type} {m : StoreMethod} {op : Store → Except Fault (α × Store)}
    (h : exec (write m op) d = (.error e, d')) : Quiet d d' := by
  rw [exec_write] at h
  revert h
  rcases (d.plan.trip m).2 with _ | f
  · rcases op d.store with _ | s
    · intro h
      cases h
      exact Leaves.frame.trip d m
    · intro h
      cases h
  · intro h
    cases h
    exact Leaves.frame.trip d m

theorem quiet_of_change_error {m : StoreMethod} {op : Store → Except Fault Store}
    (h : exec (change m op) d = (.error e, d')) : Quiet d d' :=
  quiet_of_write_error h

theorem quiet_of_within_change_error {context : String} {m : StoreMethod}
    {op : Store → Except Fault Store}
    (h : exec (within context (change m op)) d = (.error e, d')) : Quiet d d' := by
  obtain ⟨e', he'⟩ := exec_within_error h
  exact quiet_of_change_error he'

theorem attempt_no_error {α : Type} {x : DeskM α} (hx : Calm x)
    (h : exec (attempt x) d = (.error e, d')) : False := by
  obtain ⟨r, hr⟩ := exec_attempt_of_calm hx d
  rw [hr] at h
  cases h

theorem ignoring_no_error {x : DeskM Unit} (hx : Calm x)
    (h : exec (ignoring x) d = (.error e, d')) : False := by
  rw [exec_ignoring_of_calm hx] at h
  cases h

theorem keeps_invalidate_throw {β γ : Type} (e : Fault) (k : β → DeskM γ) :
    Keeps (Heals T xs) (invalidate T >>= fun _ => (throw e : DeskM β) >>= k) :=
  keeps_heals_bind keeps_invalidate_heals fun _ => safe_frame.keeps_throw_bind _ _

/-- Dropping the snapshot, then counting, then answering, mends. -/
theorem keeps_invalidate_answer {β : Type} (f : Metrics → Metrics) (b : β) :
    Keeps (Heals T xs) (invalidate T >>= fun _ => tally f >>= fun _ => pure b) :=
  keeps_heals_bind keeps_invalidate_heals fun _ =>
    safe_frame.keeps_bind (safe_frame.keeps_tally _) fun _ => safe_frame.keeps_pure _

theorem keeps_reject_safe (c : Conflict) (nt : NewTrade) :
    Keeps (Safe nt.traderId [nt.tradeId]) (reject c nt) := by
  unfold reject
  refine safe_frame.keeps_bind (safe_frame.keeps_clock) fun now => ?_
  exact keeps_stale_bind_safe
    (stale_frame.keeps_within _ (keeps_markStatus_stale List.mem_cons_self))
    (fun _ _ _ h => (quiet_of_within_change_error h).safe) fun _ => keeps_invalidate_answer _ _

theorem keeps_cooldownReject_safe (nt : NewTrade) (c : Option Conflict) (cd : Cooldown) :
    Keeps (Safe nt.traderId [nt.tradeId]) (cooldownReject nt c cd) := by
  unfold cooldownReject
  refine safe_frame.keeps_bind (safe_frame.keeps_clock) fun now => ?_
  exact keeps_stale_bind_safe
    (stale_frame.keeps_within _ (keeps_markStatus_stale List.mem_cons_self))
    (fun _ _ _ h => (quiet_of_within_change_error h).safe) fun _ => keeps_invalidate_answer _ _

theorem keeps_checkFailed_safe (nt : NewTrade) (cause : Fault) :
    Keeps (Safe nt.traderId [nt.tradeId]) (checkFailed nt cause) := by
  unfold checkFailed
  refine safe_frame.keeps_bind safe_frame.keeps_get fun _ => ?_
  split
  · refine safe_frame.keeps_bind safe_frame.keeps_clock fun now => ?_
    refine keeps_stale_bind_safe
      (stale_frame.keeps_ignoring (keeps_markStatus_stale List.mem_cons_self))
      (fun _ _ _ h => (ignoring_no_error (calm_change (Store.markStatus_calm _ _ _ _)) h).elim)
      fun _ => ?_
    exact keeps_heals_bind keeps_invalidate_heals fun _ =>
      safe_frame.keeps_bind (safe_frame.keeps_tally _) fun _ => safe_frame.keeps_throw _
  · exact safe_frame.keeps_bind (safe_frame.keeps_tally _) fun _ => safe_frame.keeps_pure _

theorem keeps_merge_safe (c : Conflict) (nt : NewTrade) :
    Keeps (Safe nt.traderId [nt.tradeId]) (merge c nt) := by
  unfold merge
  dsimp only
  refine safe_frame.keeps_bind safe_frame.keeps_clock fun now =>
    safe_frame.keeps_bind (safe_frame.keeps_within _ (safe_frame.keeps_read _ _)) fun primary =>
      safe_frame.keeps_bind (safe_frame.keeps_exact _) fun ⟨size, entry⟩ => ?_
  -- the primary absorbs the new trade without changing status
  refine safe_frame.keeps_bind (safe_frame.keeps_within _ (Keeps.safe_of_quiet
    (quiet_frame.keeps_change fun _ _ h => Leaves.of_store (Store.quiet_applyMerge h)))) fun _ => ?_
  refine keeps_stale_bind_safe (stale_frame.keeps_attempt (keeps_markMerged_stale List.mem_cons_self))
    (fun _ _ _ h => (attempt_no_error (calm_change (Store.markMerged_calm _ _ _ _)) h).elim)
    fun marked => ?_
  split
  · exact keeps_invalidate_throw _ _
  · refine keeps_stale_bind_heals (Keeps.stale_of_quiet (quiet_frame.keeps_setCooldown _ _ _ _ _))
      (fun d _ _ h => by simp at h) fun _ => keeps_invalidate_answer _ _


theorem keeps_processTrade_safe (nt : NewTrade) :
    Keeps (Safe nt.traderId [nt.tradeId]) (processTrade nt) := by
  unfold processTrade
  dsimp only
  split
  · exact safe_frame.keeps_throw_bind _ _
  · refine safe_frame.keeps_bind (safe_frame.keeps_tally _) fun _ =>
      safe_frame.keeps_bind (safe_frame.keeps_onCooldown _ _) fun _ => ?_
    split
    · exact keeps_cooldownReject_safe _ _ _
    · refine safe_frame.keeps_bind_ok
        (safe_frame.keeps_attempt (safe_frame.keeps_checkConflict _ keeps_snapshot_safe _ _ _))
        fun res d d' hres => ?_
      rcases res with f | (_ | c)
      · exact keeps_checkFailed_safe _ _ d'
      · exact safe_frame.keeps_bind (safe_frame.keeps_invalidate _) (fun _ => safe_frame.keeps_pure _) d'
      · -- a conflict found merges or rejects
        obtain ⟨-, S, -, hfound⟩ := checkConflict_ok (exec_attempt_ok hres)
        rcases hfound with ⟨-, -, hnone⟩ | ⟨c', hc', hact⟩
        · cases hnone
        · cases hc'
          unfold resolveConflict
          rcases hact with hact | hact <;> simp only [hact]
          · exact keeps_merge_safe c nt d'
          · exact keeps_reject_safe c nt d'

theorem foldlM_answers {α γ : Type} {f : γ → α → DeskM γ}
    (hf : ∀ acc a d, ∃ b, (exec (f acc a) d).1 = .ok b) :
    ∀ (l : List α) (init : γ) (d : Desk), ∃ b, (exec (l.foldlM f init) d).1 = .ok b := by
  intro l
  induction l with
  | nil => exact fun init _ => ⟨init, rfl⟩
  | cons a l ih =>
    intro init d
    obtain ⟨b, hb⟩ := hf init a d
    rw [List.foldlM_cons, exec_bind]
    rcases hx : exec (f init a) d with ⟨_ | b', d₁⟩
    · rw [hx] at hb
      cases hb
    · exact ih b' d₁

/-- Closing the trades of a position gathers the failures and always answers. -/
theorem closeAll_answers (ids : List String) (keep : String) (exit : Float) (now : Instant)
    (reason : String) (d : Desk) : ∃ b, (exec (closeAll ids keep exit now reason) d).1 = .ok b := by
  refine foldlM_answers (fun acc id e => ?_) ids none d
  split
  · exact ⟨acc, rfl⟩
  · obtain ⟨r, hr⟩ := exec_attempt_of_calm (calm_change (Store.closeTrade_calm now id exit now reason)) e
    rw [exec_bind, hr]
    rcases r with f | ⟨⟩
    · exact ⟨_, rfl⟩
    · exact ⟨_, rfl⟩

theorem keeps_closeAll_stale {ids : List String} (hids : ∀ id ∈ ids, id ∈ xs) (keep : String)
    (exit : Float) (now : Instant) (reason : String) :
    Keeps (Stale T xs) (closeAll ids keep exit now reason) := by
  refine stale_frame.keeps_foldlM _ fun acc id hid => ?_
  split
  · exact stale_frame.keeps_pure _
  · refine stale_frame.keeps_bind (stale_frame.keeps_attempt (keeps_closeTrade_stale (hids id hid)))
      fun r => ?_
    split <;> exact stale_frame.keeps_pure _

/-- A step that may leave `T` stale and then mends, where the rest may look at the answer. -/
theorem keeps_stale_bind_heals_ok {α β : Type} {x : DeskM α} {f : α → DeskM β}
    (hx : Keeps (Stale T xs) x) (herr : ∀ d e d', exec x d = (.error e, d') → Heals T xs d d')
    (hf : ∀ a d d', exec x d = (.ok a, d') → Heals T xs d' (exec (f a) d').2) :
    Keeps (Heals T xs) (x >>= f) := by
  intro d h hown
  rw [exec_bind]
  rcases hd : exec x d with ⟨_ | a, d₁⟩
  · exact herr d _ d₁ hd h hown
  · obtain ⟨h₁, hown₁⟩ := h.of_stale hown (by simpa [hd] using hx d)
    exact hf a d d₁ hd h₁ hown₁

/-- A replacement closes the position's trades and promotes the new trade, and drops the
trader's snapshot on every way out after the first close. -/
theorem keeps_replace_safe (c : Conflict) (nt : NewTrade) :
    Keeps (Safe nt.traderId (c.existing.tradeIds ++ [nt.tradeId])) (replace c nt) := by
  unfold replace
  dsimp only
  refine safe_frame.keeps_bind safe_frame.keeps_clock fun now =>
    safe_frame.keeps_bind (safe_frame.keeps_mark _) fun mark => ?_
  refine keeps_stale_bind_safe
    (keeps_closeAll_stale (fun id hid => List.mem_append_left _ hid) _ _ _ _)
    (fun d e d' h => by
      obtain ⟨b, hb⟩ := closeAll_answers c.existing.tradeIds nt.tradeId
        (mark.getD c.existing.entryPrice) now ("replaced by " ++ nt.tradeId) d
      rw [h] at hb
      cases hb) fun res => ?_
  split
  · exact keeps_invalidate_throw _ _
  · refine keeps_stale_bind_heals_ok
      (stale_frame.keeps_attempt (Keeps.stale_of_quiet (quiet_frame.keeps_read _ _)))
      (fun _ _ _ h => (attempt_no_error (calm_read (Store.get_calm _)) h).elim)
      fun r d d' hread => ?_
    split
    · -- the trade read is the new trade, whose id is one of those the step may touch
      rename_i t
      obtain ⟨row, hfind, rfl⟩ := Store.get_ok (exec_read_ok (exec_attempt_ok hread))
      have hid : row.trade.id ∈ c.existing.tradeIds ++ [nt.tradeId] :=
        List.mem_append_right _ (List.mem_singleton.mpr (Store.find?_some hfind).2)
      rw [pure_bind]
      split
      · exact keeps_stale_bind_heals (stale_frame.keeps_attempt (keeps_markStatus_stale hid))
          (fun _ _ _ h => (attempt_no_error (calm_change (Store.markStatus_calm _ _ _ _)) h).elim)
          (fun r => by
            split
            · exact keeps_invalidate_throw _ _
            · exact keeps_heals_bind keeps_invalidate_heals fun _ => safe_frame.keeps_pure _) d'
      · exact keeps_heals_bind keeps_invalidate_heals (fun _ => safe_frame.keeps_pure _) d'
    · exact keeps_invalidate_throw _ _ d'

end Services

/-! ### Requests that keep every snapshot fresh -/

/-- A step after which every cached snapshot is fresh, when every one was before. -/
def StaysFresh (d d' : Desk) : Prop := FreshOutside [] d → FreshOutside [] d'

theorem staysFresh_frame : Frame StaysFresh where
  refl _ h := h
  trans h₁ h₂ h := h₂ (h₁ h)
  metrics d m h := h.of_leaves (Leaves.frame.metrics d m)
  cooldowns d c h := h.of_leaves (Leaves.frame.cooldowns d c)
  trip d m h := h.of_leaves (Leaves.frame.trip d m)
  drop d trader h := h.of_leaves (Leaves.frame.drop d trader)

theorem Quiet.staysFresh {d d' : Desk} (h : Quiet d d') : StaysFresh d d' :=
  fun hf => hf.of_leaves (h.mono fun _ _ => trivial)

theorem Keeps.staysFresh_of_quiet {α : Type} {x : DeskM α} (hx : Keeps Quiet x) :
    Keeps StaysFresh x :=
  fun d => (hx d).staysFresh

end Desk

/-- Every id an aggregation lists is one it started with or the id of a trade pushed. -/
theorem foldlM_push_tradeIds {trader : String} :
    ∀ {ts : List Trade} {acc acc' : Aggregation},
      ts.foldlM (Aggregation.push trader) acc = .ok acc' →
      ∀ id ∈ acc'.position.tradeIds, id ∈ acc.position.tradeIds ∨ ∃ t ∈ ts, t.id = id
  | [], acc, acc', h => by
    cases h
    exact fun id hid => .inl hid
  | t :: ts, acc, acc', h => by
    rw [List.foldlM_cons] at h
    rcases hpush : Aggregation.push trader acc t with _ | mid
    · rw [hpush] at h
      cases h
    · rw [hpush] at h
      -- one push lists the trade's id after the ids it keeps
      have hstep : ∀ id ∈ mid.position.tradeIds, id ∈ acc.position.tradeIds ∨ id = t.id := by
        intro id hid
        rw [(Aggregation.push_position hpush).1, List.mem_append, List.mem_singleton] at hid
        rcases hid with hid | rfl
        · split at hid
          · simp at hid
          · exact .inl hid
        · exact .inr rfl
      intro id hid
      rcases foldlM_push_tradeIds h id hid with hmid | ⟨t', ht', hid'⟩
      · rcases hstep id hmid with hacc | rfl
        · exact .inl hacc
        · exact .inr ⟨t, List.mem_cons_self, rfl⟩
      · exact .inr ⟨t', List.mem_cons_of_mem _ ht', hid'⟩

/-- A position lists only ids of the trades it was aggregated from. -/
theorem aggregate_tradeIds {trader : String} {trades : List Trade} {exclude : String}
    {p : Position} (h : aggregate trader trades exclude = .ok (some p)) :
    ∀ id ∈ p.tradeIds, ∃ t ∈ trades, t.id = id := by
  unfold aggregate at h
  rcases hf : (trades.filter (·.id != exclude)).foldlM (Aggregation.push trader) {} with _ | acc
  · rw [hf] at h
    cases h
  · rw [hf] at h
    simp only [bind, Except.bind] at h
    split at h
    · cases h
    · cases h
      intro id hid
      rcases foldlM_push_tradeIds hf id hid with hnil | ⟨t, ht, rfl⟩
      · cases hnil
      · exact ⟨t, (List.mem_filter.mp ht).1, rfl⟩


/-- A stored row belongs to its trader when ids are not repeated. -/
theorem Store.owns_of_mem {s : Store} (hnd : (s.rows.map (·.trade.id)).Nodup) {r : Row}
    (hr : r ∈ s.rows) : s.Owns r.trade.traderId r.trade.id := by
  intro r' hr' hid
  rw [List.inj_on_of_nodup_map hnd hr' hr hid]

/-- The trades of a position computed from a fresh snapshot belong to its trader. -/
theorem Snapshot.Fresh.ownsAll_position {S : Snapshot} {T : String} {s : Store} (hS : S.Fresh T s)
    (hnd : (s.rows.map (·.trade.id)).Nodup) {symbol : String} {side : TradeSide}
    {exclude : String} {pos : Position} (hpos : S.position T symbol side exclude = .ok (some pos)) :
    s.OwnsAll T pos.tradeIds := by
  intro id hid
  obtain ⟨n, hagree⟩ := hS
  obtain ⟨t, ht, rfl⟩ := aggregate_tradeIds hpos id hid
  obtain ⟨r, hr, hrid, htrader, -⟩ := (hagree t.id).mp ⟨_, t, ht, rfl⟩
  rw [← hrid, ← htrader]
  exact Store.owns_of_mem hnd (List.mem_of_mem_take hr)

namespace Desk

/-- A stored trade is read with its owner, when ids are not repeated. -/
theorem get_owns {d d' : Desk} {id : String} {t : Trade}
    (h : exec (read .getTrade (·.get id)) d = (.ok t, d'))
    (hnd : (d'.store.rows.map (·.trade.id)).Nodup) :
    d'.store.OwnsAll t.traderId [t.id] ∧ t.id = id := by
  obtain ⟨row, hfind, rfl⟩ := Store.get_ok (exec_read_ok h)
  have hstore : d'.store = d.store := (store_frame.keeps_read _ _).of_exec h
  rw [hstore] at hnd ⊢
  obtain ⟨hr, hid⟩ := Store.find?_some hfind
  refine ⟨fun x hx => ?_, hid⟩
  rw [List.mem_singleton.mp hx]
  exact Store.owns_of_mem hnd hr

theorem keeps_admitTrade_fresh (id : String) : Keeps StaysFresh (admitTrade id) := by
  unfold admitTrade
  refine staysFresh_frame.keeps_bind_ok (staysFresh_frame.keeps_read _ _) fun t d d₁ hread hf₁ => ?_
  split
  · exact hf₁
  · -- the admitted trade is the stored one, with its own owner
    exact ((keeps_processTrade_safe (NewTrade.ofTrade t)) d₁ hf₁ (get_owns hread hf₁.nodup).1).1

theorem keeps_replaceTrade_fresh (trader symbol : String) (side : TradeSide) (newId : String) :
    Keeps StaysFresh (replaceTrade trader symbol side newId) := by
  unfold replaceTrade
  refine staysFresh_frame.keeps_bind_ok (staysFresh_frame.keeps_read _ _) fun t d d₁ hread hf₁ => ?_
  dsimp only
  by_cases hvalid : (t.traderId != trader || !side.valid) = true
  · rw [if_pos hvalid]
    exact staysFresh_frame.keeps_throw_bind _ _ d₁ hf₁
  · rw [if_neg hvalid]
    have htrader : t.traderId = trader := by
      simpa using (Bool.or_eq_false_iff.mp (Bool.eq_false_iff.mpr hvalid)).1
    obtain ⟨hownT, -⟩ := get_owns hread hf₁.nodup
    rw [htrader] at hownT
    rw [exec_bind]
    rcases hs : exec (snapshot trader) d₁ with ⟨_ | S, d₂⟩
    · have hsafe := keeps_snapshot_safe d₁ hf₁ hownT
      rw [hs] at hsafe
      exact hsafe.1
    · -- the position replaced is read off a fresh snapshot, so its trades are the trader's
      have hsafe := keeps_snapshot_safe d₁ hf₁ hownT
      rw [hs] at hsafe
      have hS := (snapshot_read hf₁ hs).1
      dsimp only
      rw [exec_bind, exec_exact]
      rcases hpos : S.position trader symbol side newId with m | (_ | pos)
      · exact hsafe.1
      · exact hsafe.1
      · have hown : d₂.store.OwnsAll t.traderId (pos.tradeIds ++ [t.id]) := by
          intro x hx
          rw [htrader]
          rcases List.mem_append.mp hx with hx | hx
          · exact hS.ownsAll_position hsafe.1.nodup hpos x hx
          · exact hsafe.2 x hx
        refine (keeps_replace_safe _ (NewTrade.ofTrade t) d₂ hsafe.1 ?_).1
        exact hown

end Desk

/-- A report ends its order without any quantity filled: cancelled, expired or rejected with
nothing beyond the tolerance. -/
def OrderUpdate.endsWithoutFill (o : OrderUpdate) : Bool :=
  o.status.endsUnfilled && !decide (qtyEpsilon < o.cumulativeQty)

theorem Trade.growMergedEntry_status (t : Trade) (o : OrderUpdate) (delta : Float) :
    (t.growMergedEntry o delta).status = t.status := by
  unfold Trade.growMergedEntry
  split <;> rfl

section Fill

variable (leg : Leg) (o : OrderUpdate) (dec : FillDecision) (eventTime now : Int)

theorem applyFill_traderId (t : Trade) : (applyFill t leg o dec eventTime now).1.traderId = t.traderId := by
  unfold applyFill
  generalize hu : (if eventTime > t.lastEventAt then { t with lastEventAt := eventTime } else t) = u
  have htrader : u.traderId = t.traderId := by
    subst hu
    split <;> rfl
  unfold Trade.growMergedEntry
  cases leg <;> simp only [apply_ite Prod.fst, apply_ite Trade.traderId, htrader, ite_self]

/-- A fill that reports no transition leaves the status as it was. -/
theorem applyFill_status_of_none {t : Trade} (h : (applyFill t leg o dec eventTime now).2 = .none) :
    (applyFill t leg o dec eventTime now).1.status = t.status := by
  unfold applyFill at h ⊢
  generalize hu : (if eventTime > t.lastEventAt then { t with lastEventAt := eventTime } else t) = u at h ⊢
  have hst : u.status = t.status := by
    subst hu
    split <;> rfl
  cases leg <;> dsimp only at h ⊢ <;> split_ifs at h ⊢ <;>
    simp_all [Trade.growMergedEntry_status]

/-- Only a report that ends its order without a fill fails a trade. -/
theorem applyFill_failed {t : Trade} (h : (applyFill t leg o dec eventTime now).2 = .failed) :
    o.endsWithoutFill = true := by
  unfold applyFill at h
  unfold OrderUpdate.endsWithoutFill
  cases leg <;> dsimp only at h <;> split_ifs at h <;> simp_all

end Fill


theorem Store.updateFill_traderId {s s' : Store} {now : Instant} {t w : Trade}
    (h : s.updateFill now t = .ok (w, s')) : w.traderId = t.traderId := by
  rw [(updateFill_ok h).1]

namespace Desk

/-- A fill written over a read of a trade of `T`: a failed write changes nothing; a write that
went through answers a trade of `T`, leaves every other trader as it was, and every trader when
the status written is the one read. -/
theorem writeFill_spec {d d' : Desk} {now : Instant} {t t' : Trade}
    {r : Except Fault (Except Fault Trade)} (hown : d.store.Owns t.traderId t.id)
    (hcur : d.store.Current t) (hid : t'.id = t.id) (htrader : t'.traderId = t.traderId)
    (h : exec (attempt (write .updateFill fun s => s.updateFill now t')) d = (r, d')) :
    (∃ f, r = .ok (.error f) ∧ Quiet d d') ∨
      ∃ w, r = .ok (.ok w) ∧ w.traderId = t.traderId ∧ Leaves (· ≠ t.traderId) d d' ∧
        (t'.status = t.status → Quiet d d') := by
  rcases r with e | (f | w)
  · exact (attempt_no_error (calm_write (Store.updateFill_calm now t')) h).elim
  · exact .inl ⟨f, rfl, quiet_of_write_error (exec_attempt_error h)⟩
  · -- a write that went through met no staged failure
    have hw := exec_attempt_ok h
    rw [exec_write] at hw
    revert hw
    rcases (d.plan.trip .updateFill).2 with _ | f
    · rcases hop : d.store.updateFill now t' with _ | ⟨w', s⟩
      · intro hw
        cases hw
      · intro hw
        cases hw
        have hown' : d.store.Owns t.traderId t'.id := by
          rw [hid]
          exact hown
        refine .inr ⟨w, rfl, (Store.updateFill_traderId hop).trans htrader, ?_, fun hst => ?_⟩
        · exact Leaves.frame.trans (Leaves.frame.trip d _)
            (Leaves.of_store (Store.leaves_updateFill hown' hop))
        · refine quiet_frame.trans (quiet_frame.trip d _) (Leaves.of_store
            (Store.quiet_updateFill (fun r hr hrid => ?_) hop))
          rw [hst, hcur r hr (hrid.trans hid)]
    · intro hw
      cases hw

/-- A trade read from the store, with its owner and as current. -/
theorem get_current {d d' : Desk} {id : String} {t : Trade}
    (h : exec (read .getTrade (·.get id)) d = (.ok t, d'))
    (hnd : (d'.store.rows.map (·.trade.id)).Nodup) :
    d'.store.Owns t.traderId t.id ∧ d'.store.Current t := by
  obtain ⟨row, hfind, rfl⟩ := Store.get_ok (exec_read_ok h)
  have hstore : d'.store = d.store := (store_frame.keeps_read _ _).of_exec h
  rw [hstore] at hnd ⊢
  have hr := (Store.find?_some hfind).1
  exact ⟨Store.owns_of_mem hnd hr, Store.current_of_mem hnd hr⟩

/-- Folding a report into a trade keeps every snapshot fresh, from a read of a trade that is
current and has its owner, when the report does not end its order without a fill: a fill that
opens or closes the trade drops its owner's snapshot, and any other leaves liveness alone. -/
theorem applyOrder_fresh (o : OrderUpdate) (ho : o.endsWithoutFill = false) (leg : Leg)
    (eventTime : Int) (n : Nat) :
    ∀ (t : Trade) (d : Desk), (FreshOutside [] d → d.store.Owns t.traderId t.id ∧ d.store.Current t) →
      StaysFresh d (exec (applyOrder o leg eventTime n t) d).2 := by
  induction n with
  | zero => exact fun _ d _ => staysFresh_frame.refl d
  | succ n ih =>
    intro t d hread hf
    obtain ⟨hown, hcur⟩ := hread hf
    unfold applyOrder
    dsimp only
    split
    · exact staysFresh_frame.keeps_bind (staysFresh_frame.keeps_tally _) (fun _ => staysFresh_frame.keeps_pure _) d hf
    · rw [exec_bind, exec_clock]
      dsimp only
      have hid := applyFill_id leg o (decideFill t leg o eventTime) eventTime d.now.toMs t
      have htrader := applyFill_traderId leg o (decideFill t leg o eventTime) eventTime d.now.toMs t
      have hnone := @applyFill_status_of_none leg o (decideFill t leg o eventTime) eventTime d.now.toMs t
      have hfail := @applyFill_failed leg o (decideFill t leg o eventTime) eventTime d.now.toMs t
      generalize applyFill t leg o (decideFill t leg o eventTime) eventTime d.now.toMs = fill at *
      obtain ⟨t', tr⟩ := fill
      dsimp only at hid htrader hnone hfail ⊢
      rw [exec_bind]
      rcases hx : exec (attempt (write .updateFill fun s => s.updateFill d.now t')) d with ⟨r, d₂⟩
      rcases writeFill_spec hown hcur hid htrader hx with ⟨f, rfl, hq⟩ | ⟨w, rfl, hw, hl, hq⟩
      · -- a lost write is retried on the trade read again
        have hf₂ := hq.staysFresh hf
        dsimp only
        split
        · rw [exec_bind]
          rcases hr : exec (within "reload trade after stale write: "
              (read .getTrade (·.get t.id))) d₂ with ⟨_ | fresh, d₃⟩
          · exact ((quiet_frame.keeps_within _ (quiet_frame.keeps_read _ _)).of_exec hr).staysFresh hf₂
          · have hf₃ := ((quiet_frame.keeps_within _ (quiet_frame.keeps_read _ _)).of_exec hr).staysFresh hf₂
            exact ih fresh d₃ (fun hf₃ => get_current (exec_within_ok hr) hf₃.nodup) hf₃
        · exact hf₂
      · -- a written fill that opens or closes drops the owner's snapshot
        dsimp only
        cases tr with
        | none =>
          exact staysFresh_frame.keeps_bind (staysFresh_frame.keeps_tally _)
            (fun _ => keeps_ite (staysFresh_frame.keeps_invalidate _) (staysFresh_frame.keeps_pure _)) d₂
            ((hq (hnone rfl)).staysFresh hf)
        | opened | closed =>
          have hdirty : FreshOutside [t.traderId] d₂ :=
            (hf.mono (by simp)).of_leaves (hl.mono (by simp))
          refine (keeps_stale_bind_heals (T := t.traderId) (stale_frame.keeps_tally _)
            (fun _ _ _ h => by simp at h) (fun _ => ?_) d₂ hdirty
            (show d₂.store.OwnsAll t.traderId [] by simp [Store.OwnsAll])).1
          rw [if_pos (by decide), hw]
          exact keeps_invalidate_heals
        | failed => exact absurd (hfail rfl) (by simp [ho])

theorem keeps_resolveOrder_quiet (o : OrderUpdate) : Keeps Quiet (resolveOrder o) :=
  quiet_frame.keeps_resolveOrder (fun _ _ _ _ _ _ h => Leaves.of_store (Store.quiet_backfill h)) o

/-- An execution report keeps every snapshot fresh unless it ends its order without a fill. -/
theorem keeps_handleOrder_fresh (eventTime : Int) (o : OrderUpdate)
    (ho : o.endsWithoutFill = false) : Keeps StaysFresh (handleOrder eventTime o) := by
  unfold handleOrder
  refine staysFresh_frame.keeps_bind (staysFresh_frame.keeps_tally _) fun _ => ?_
  refine staysFresh_frame.keeps_bind_ok (staysFresh_frame.keeps_attempt
    (Keeps.staysFresh_of_quiet (keeps_resolveOrder_quiet o))) fun res d d₁ hres hf₁ => ?_
  rcases res with f | ⟨t, leg⟩
  · dsimp only
    split
    · exact staysFresh_frame.keeps_tally _ d₁ hf₁
    · exact hf₁
  · -- the trade resolved is a row's, current and with its owner where the resolution leaves
    have hres := exec_attempt_ok hres
    have hq := (keeps_resolveOrder_quiet o).of_exec hres
    have hnd : (d.store.rows.map (·.trade.id)).Nodup := by
      rw [← ids_eq_of_leaves hq.rows]
      exact hf₁.nodup
    obtain ⟨r, hr, rfl⟩ := resolveOrder_row hres
    refine applyOrder_fresh o ho leg _ 2 r.trade d₁ (fun _ => ⟨?_, resolveOrder_current hres hnd⟩) hf₁
    exact (Store.owns_of_mem hnd hr).of_leaves hq.rows

end Desk

end TradeLedger
