import TradeLedger.Ledger.FaultPlan
import Mathlib.Data.List.Forall2
import Mathlib.Data.List.Nodup
/-!
# How the ledger's rows move

Rows are never deleted and no write moves a row to another trade, trader, symbol or side. The
position manager only takes a trade out of the live statuses, and a fill only moves a live trade
on from the status it was read with. Every invariant about which rows can be live rests on this.
The queries answer with rows of the store as they stand, and a write of float columns refuses a
NaN, which the store would keep as null, before it changes anything.

## Main definitions

* `Store.Settles`: rows one for one, same trade, trader, symbol and side, live only where they
  were.

## Theorems

* `Store.Settles.trans`, `Store.settles_markStatus`: the writes that settle.
* `Store.requireNumbers_bind_ok`: a write that went through wrote no NaN.
* `Store.mem_live`, `Store.get_ok`, `Store.findByOrder_ok`: what the queries answer.
-/

namespace TradeLedger

section Sorting

variable {α : Type} (le : α → α → Bool)

theorem insertStable_perm (a : α) : ∀ l : List α, (insertStable le a l).Perm (a :: l)
  | [] => List.Perm.refl _
  | b :: l => by
    unfold insertStable
    split
    · exact List.Perm.refl _
    · exact ((insertStable_perm a l).cons b).trans (List.Perm.swap a b l)

theorem stableSort_perm : ∀ l : List α, (stableSort le l).Perm l
  | [] => List.Perm.refl _
  | a :: l => (insertStable_perm le a _).trans ((stableSort_perm l).cons a)

@[simp] theorem mem_stableSort {l : List α} {a : α} : a ∈ stableSort le l ↔ a ∈ l :=
  (stableSort_perm le l).mem_iff

end Sorting

namespace Store

variable {s s' : Store} {id : String} {now : Instant}

/-- A store call that passed the open-store check goes on with its body; the store was open. -/
theorem guard_bind_ok {context : String} {β : Type} {x : Except Fault β} {b : β}
    (h : (s.guard context >>= fun _ => x) = .ok b) : x = .ok b ∧ s.closed = false := by
  unfold guard at h
  split at h
  · cases h
  · exact ⟨h, by simpa using ‹¬s.closed = true›⟩

/-- A write that passed the check of its float columns goes on with its body; none of them was
NaN. -/
theorem requireNumbers_bind_ok {context : String} {cols : List (String × Float)} {β : Type}
    {x : Except Fault β} {b : β} (h : (requireNumbers context cols >>= fun _ => x) = .ok b) :
    x = .ok b ∧ ∀ c ∈ cols, c.2.isNaN = false := by
  unfold requireNumbers at h
  split at h
  · cases h
  · rename_i hnone
    exact ⟨h, fun c hc => Bool.eq_false_iff.mpr (List.find?_eq_none.mp hnone c hc)⟩

theorem requireNumbers_ok {context : String} {cols : List (String × Float)}
    (h : ∀ c ∈ cols, c.2.isNaN = false) : requireNumbers context cols = pure () := by
  unfold requireNumbers
  rw [List.find?_eq_none.mpr fun c hc => Bool.eq_false_iff.mp (h c hc)]

theorem Row.scan_ok {r : Row} {t : Trade} (h : Row.scan r = .ok t) : t = r.trade := by
  simp only [Row.scan] at h
  split at h
  · cases h
  · exact (Except.ok.inj h).symm

theorem scanAll_ok : ∀ {rows : List Row} {ts : List Trade}, scanAll rows = .ok ts →
    ts = rows.map (·.trade)
  | [], ts, h => by
    cases h
    rfl
  | r :: rows, ts, h => by
    unfold scanAll at h
    rw [List.mapM_cons] at h
    rcases hr : Row.scan r with f | t
    · rw [hr] at h
      cases h
    · rw [hr] at h
      rcases hs : List.mapM (fun r => (Row.scan r).mapError (·.wrap "scan trade: ")) rows with
        f | ts'
      · rw [hs] at h
        cases h
      · rw [hs] at h
        cases h
        rw [Row.scan_ok hr, scanAll_ok hs]
        rfl

theorem find?_some {r : Row} (h : s.find? id = some r) :
    r ∈ s.rows ∧ r.trade.id = id := by
  unfold find? at h
  exact ⟨List.mem_of_find?_eq_some h, by simpa using List.find?_some h⟩

theorem find?_none (h : s.find? id = none) :
    ∀ r ∈ s.rows, r.trade.id ≠ id := by
  unfold find? at h
  intro r hr hid
  simpa [hid] using List.find?_eq_none.mp h r hr

theorem find?_of_mem {r : Row} (hnd : (s.rows.map (·.trade.id)).Nodup)
    (hr : r ∈ s.rows) : s.find? r.trade.id = some r := by
  rcases h : s.find? r.trade.id with _ | r'
  · exact absurd rfl (find?_none h r hr)
  · obtain ⟨hr', hid⟩ := find?_some h
    rw [List.inj_on_of_nodup_map hnd hr' hr hid]

/-- A read of a trade answers with the trade of its row. -/
theorem get_ok {t : Trade} (h : s.get id = .ok t) :
    ∃ r, s.find? id = some r ∧ r.trade = t := by
  unfold get at h
  rcases hg : s.guard ("get trade " ++ id ++ ": ") with _ | ⟨⟩
  · simp [hg, bind, Except.bind] at h
  · rcases hf : s.find? id with _ | r
    · simp [hg, hf, bind, Except.bind, throw, throwThe, MonadExceptOf.throw] at h
    · simp only [hg, hf, bind, Except.bind] at h
      rcases hr : Row.scan r with _ | t'
      · simp [hr, Except.mapError] at h
      · simp only [hr, Except.mapError, Except.ok.injEq] at h
        exact ⟨r, rfl, by rw [← Row.scan_ok hr, h]⟩

/-- The trades of the live query are the trader's live rows, all of them. -/
theorem mem_live {trader : String} {ts : List Trade} (h : s.live trader = .ok ts)
    {t : Trade} : t ∈ ts ↔ ∃ r ∈ s.rows, r.trade = t ∧ r.trade.traderId = trader ∧
      r.trade.status.live = true := by
  unfold live at h
  split at h
  · cases h
  · rcases hg : s.guard "query live trades: " with _ | ⟨⟩
    · simp [hg, bind, Except.bind] at h
    · simp only [hg, bind, Except.bind] at h
      rw [scanAll_ok h]
      simp [and_comm, and_left_comm]

theorem live_open {trader : String} {ts : List Trade} (h : s.live trader = .ok ts) :
    s.closed = false := by
  unfold live at h
  split at h
  · cases h
  · exact (guard_bind_ok h).2

/-- A query by order id answers with the trade of a stored row. -/
theorem findByOrder_ok {orderId : String} {t : Trade}
    (h : s.findByOrder orderId = .ok t) : ∃ r ∈ s.rows, r.trade = t := by
  unfold findByOrder at h
  split at h
  · cases h
  · rcases hg : s.guard ("find trade by order " ++ orderId ++ ": ") with _ | ⟨⟩
    · simp [hg, bind, Except.bind] at h
    · simp only [hg, bind, Except.bind] at h
      split at h
      · rename_i r rest hsort
        rcases hr : Row.scan r with _ | t'
        · simp [hr, Except.mapError] at h
        · simp only [hr, Except.mapError, Except.ok.injEq] at h
          have hmem : r ∈ r :: rest := List.mem_cons_self
          rw [← hsort] at hmem
          simp only [newestFirst, List.mem_map, mem_stableSort, List.mem_filter] at hmem
          obtain ⟨⟨i, r'⟩, ⟨hi, -⟩, rfl⟩ := hmem
          exact ⟨r', List.of_mem_zip hi |>.2, by rw [← h, Row.scan_ok hr]⟩
      · cases h

/-- A query of recent payloads answers with trades of stored rows. -/
theorem recentRaw_ok {since : Instant} {limit : Int} {ts : List Trade}
    (h : s.recentRaw since limit = .ok ts) : ∀ t ∈ ts, ∃ r ∈ s.rows, r.trade = t := by
  unfold recentRaw at h
  rcases hg : s.guard "query recent raw responses: " with _ | ⟨⟩
  · simp [hg, bind, Except.bind] at h
  · simp only [hg, bind, Except.bind] at h
    rw [scanAll_ok h]
    intro t ht
    simp only [List.mem_map] at ht
    obtain ⟨r, hr, rfl⟩ := ht
    have hr' := List.mem_of_mem_take hr
    simp only [newestFirst, List.mem_map, mem_stableSort, List.mem_filter] at hr'
    obtain ⟨⟨i, r'⟩, ⟨hi, -⟩, rfl⟩ := hr'
    exact ⟨r', List.of_mem_zip hi |>.2, rfl⟩

end Store

/-- Lists related one for one by a transitive relation, twice, are related once. -/
theorem forall₂_trans {α : Type} {R : α → α → Prop} (htrans : ∀ a b c, R a b → R b c → R a c) :
    ∀ {l₁ l₂ l₃ : List α}, List.Forall₂ R l₁ l₂ → List.Forall₂ R l₂ l₃ → List.Forall₂ R l₁ l₃
  | _, _, _, .nil, .nil => .nil
  | _, _, _, .cons h₁ t₁, .cons h₂ t₂ => .cons (htrans _ _ _ h₁ h₂) (forall₂_trans htrans t₁ t₂)

/-- A row as a later state of the ledger may hold it: the same trade of the same trader, symbol
and side, live only if it was live before. -/
structure Row.Settles (r r' : Row) : Prop where
  id : r'.trade.id = r.trade.id
  trader : r'.trade.traderId = r.trade.traderId
  symbol : r'.trade.symbol = r.trade.symbol
  side : r'.trade.side = r.trade.side
  live : r'.trade.status.live = true → r.trade.status.live = true

namespace Row.Settles

@[refl] theorem refl (r : Row) : Row.Settles r r := ⟨rfl, rfl, rfl, rfl, fun h => h⟩

theorem trans {r₁ r₂ r₃ : Row} (h₁ : Row.Settles r₁ r₂) (h₂ : Row.Settles r₂ r₃) :
    Row.Settles r₁ r₃ :=
  ⟨h₂.id.trans h₁.id, h₂.trader.trans h₁.trader, h₂.symbol.trans h₁.symbol, h₂.side.trans h₁.side,
    fun h => h₁.live (h₂.live h)⟩

/-- A touched row settles when the change under the touch keeps the trade's identity and does
not make it live. -/
theorem touch {r : Row} {now : Instant} {f : Row → Row} (h : Row.Settles r (f r)) :
    Row.Settles r (Store.Row.touch now (f r)) :=
  ⟨h.id, h.trader, h.symbol, h.side, h.live⟩

end Row.Settles

namespace Store

variable {s s' : Store} {id : String} {now : Instant}

/-- The rows of `s'` are those of `s`, one for one, each as a later state may hold it; the store
is open or closed as before. -/
structure Settles (s s' : Store) : Prop where
  rows : List.Forall₂ Row.Settles s.rows s'.rows
  closed : s'.closed = s.closed

namespace Settles

@[refl] theorem refl (s : Store) : Settles s s :=
  ⟨List.forall₂_same.mpr fun r _ => Row.Settles.refl r, rfl⟩

theorem trans {s₁ s₂ s₃ : Store} (h₁ : Settles s₁ s₂) (h₂ : Settles s₂ s₃) : Settles s₁ s₃ :=
  ⟨forall₂_trans (R := Row.Settles) (fun _ _ _ => Row.Settles.trans) h₁.rows h₂.rows, h₂.closed.trans h₁.closed⟩

theorem exists_left (h : Settles s s') {r' : Row} (hr' : r' ∈ s'.rows) :
    ∃ r ∈ s.rows, Row.Settles r r' := by
  obtain ⟨i, hi, rfl⟩ := List.getElem_of_mem hr'
  have hlen := h.rows.length_eq
  exact ⟨s.rows[i], List.getElem_mem _, List.forall₂_iff_get.mp h.rows |>.2 i (by omega) hi⟩

theorem exists_right (h : Settles s s') {r : Row} (hr : r ∈ s.rows) :
    ∃ r' ∈ s'.rows, Row.Settles r r' := by
  obtain ⟨i, hi, rfl⟩ := List.getElem_of_mem hr
  have hlen := h.rows.length_eq
  exact ⟨s'.rows[i], List.getElem_mem _, List.forall₂_iff_get.mp h.rows |>.2 i hi (by omega)⟩

theorem ids_eq (h : Settles s s') :
    s'.rows.map (·.trade.id) = s.rows.map (·.trade.id) := by
  have : List.Forall₂ (fun a b : String => b = a) (s.rows.map (·.trade.id))
      (s'.rows.map (·.trade.id)) :=
    List.forall₂_map_left_iff.mpr (List.forall₂_map_right_iff.mpr (h.rows.imp fun _ _ h => h.id))
  exact List.forall₂_eq_eq_eq ▸ this.flip

end Settles

section Rewrites

variable {R : Row → Row → Prop}

/-- Rewriting the rows of an id relates every row to what it becomes, for a reflexive relation
that each rewritten row satisfies. -/
theorem forall₂_modify (hrefl : ∀ r, R r r) {f : Row → Row}
    (h : ∀ r ∈ s.rows, r.trade.id = id → R r (f r)) :
    List.Forall₂ R s.rows (s.modify id f).1.rows := by
  unfold modify
  split
  · refine List.forall₂_map_right_iff.mpr (List.forall₂_same.mpr fun r hr => ?_)
    split
    · exact h r hr (beq_iff_eq.mp ‹_›)
    · exact hrefl r
  · exact List.forall₂_same.mpr fun r _ => hrefl r

theorem write_ok {f : Trade → Trade}
    (h : s.write id now f = .ok s') :
    s' = (s.modify id fun r => Row.touch now { r with trade := f r.trade }).1 := by
  unfold write at h
  split at h
  · cases h
    rename_i hm
    rw [hm]
  · cases h

theorem forall₂_write (hrefl : ∀ r, R r r)
    {f : Trade → Trade} (h : s.write id now f = .ok s')
    (hf : ∀ r ∈ s.rows, r.trade.id = id → R r (Row.touch now { r with trade := f r.trade })) :
    List.Forall₂ R s.rows s'.rows := by
  rw [write_ok h]
  exact forall₂_modify hrefl hf

end Rewrites

theorem modify_closed (s : Store) (id : String) (f : Row → Row) :
    (s.modify id f).1.closed = s.closed := by
  unfold modify
  split <;> rfl

/-- Rewriting the row of an id settles when the rewrite settles each row of that id. -/
theorem settles_modify {f : Row → Row}
    (h : ∀ r ∈ s.rows, r.trade.id = id → Row.Settles r (f r)) : Settles s (s.modify id f).1 :=
  ⟨forall₂_modify Row.Settles.refl h, modify_closed s id f⟩

theorem settles_write {f : Trade → Trade}
    (h : s.write id now f = .ok s')
    (hf : ∀ t : Trade, (f t).id = t.id ∧ (f t).traderId = t.traderId ∧ (f t).symbol = t.symbol ∧
      (f t).side = t.side ∧ ((f t).status.live = true → t.status.live = true)) :
    Settles s s' := by
  rw [write_ok h]
  exact settles_modify fun r _ _ => ⟨(hf r.trade).1, (hf r.trade).2.1, (hf r.trade).2.2.1,
    (hf r.trade).2.2.2.1, (hf r.trade).2.2.2.2⟩

/-- The rows after a rewrite of an id: rewritten rows of that id, and the others as they were. -/
theorem mem_modify {f : Row → Row} {r' : Row}
    (h : r' ∈ (s.modify id f).1.rows) :
    (∃ r ∈ s.rows, r.trade.id = id ∧ r' = f r) ∨ (r' ∈ s.rows ∧ r'.trade.id ≠ id) := by
  unfold modify at h
  split at h
  · simp only [List.mem_map] at h
    obtain ⟨r, hr, rfl⟩ := h
    by_cases hid : r.trade.id = id
    · exact .inl ⟨r, hr, hid, by simp [hid]⟩
    · exact .inr ⟨by simpa [hid] using hr, by simp [hid]⟩
  · by_cases hid : r'.trade.id = id
    · exact .inl ⟨r', h, hid, by
        rename_i hnone
        exact absurd (List.find?_isSome.mpr ⟨r', h, by simp [hid]⟩) hnone⟩
    · exact .inr ⟨h, hid⟩

theorem write_ok_of_mem (now : Instant) (f : Trade → Trade)
    {r : Row} (hr : r ∈ s.rows) (hid : r.trade.id = id) : ∃ s', s.write id now f = .ok s' := by
  have hsome : (s.find? id).isSome := by
    unfold find?
    exact List.find?_isSome.mpr ⟨r, hr, by simp [hid]⟩
  unfold write modify
  simp only [hsome, if_true]
  exact ⟨_, rfl⟩

theorem settles_markStatus {status : TradeStatus}
    {reason : String} (hst : status.live = false) (h : s.markStatus now id status reason = .ok s') :
    Settles s s' :=
  settles_write (guard_bind_ok h).1 fun _ => ⟨rfl, rfl, rfl, rfl, fun h' => by simp [hst] at h'⟩

theorem settles_markMerged {id primary reason : String}
    (h : s.markMerged now id primary reason = .ok s') : Settles s s' :=
  settles_write (guard_bind_ok h).1 fun _ =>
    ⟨rfl, rfl, rfl, rfl, fun h' => by simp [TradeStatus.live] at h'⟩

/-- A stored reconciled profit is a write of the row's profit, close id and time. -/
theorem updateReconciled_ok {pnl : Float} {closeId : String} {stamp : Instant}
    (h : s.updateReconciled now id pnl closeId stamp = .ok s') :
    s.write id now (fun t =>
        { t with realizedPnl := storedFloat pnl, reconciledCloseId := closeId, reconciledAt := stamp })
      = .ok s' ∧ s.closed = false ∧ pnl.isNaN = false := by
  obtain ⟨h, hopen⟩ := guard_bind_ok h
  rcases hw : s.write id now _ with f | s₁
  · rw [hw] at h
    cases h
  · rw [hw] at h
    obtain ⟨h, hnum⟩ := requireNumbers_bind_ok h
    cases h
    exact ⟨rfl, hopen, hnum ("realized_pnl", pnl) List.mem_cons_self⟩

theorem settles_updateReconciled {pnl : Float}
    {closeId : String} {stamp : Instant} (h : s.updateReconciled now id pnl closeId stamp = .ok s') :
    Settles s s' :=
  settles_write (updateReconciled_ok h).1 fun _ => ⟨rfl, rfl, rfl, rfl, fun h' => h'⟩

/-- A merge applied to a primary rewrites its row, in an open store, with a size and entry
price that are not NaN. -/
theorem applyMerge_ok {primary : String} {size entry : Float} {absorbed : String}
    (h : s.applyMerge now primary size entry absorbed = .ok s') :
    s' = (s.modify primary (Row.absorb now size entry absorbed)).1 ∧ s.closed = false ∧
      size.isNaN = false ∧ entry.isNaN = false := by
  obtain ⟨h, hopen⟩ := guard_bind_ok h
  split at h
  · obtain ⟨h, hnum⟩ := requireNumbers_bind_ok h
    cases h
    rename_i hm
    exact ⟨by rw [hm], hopen, hnum ("size", size) List.mem_cons_self,
      hnum ("entry_price", entry) (by simp)⟩
  · cases h

theorem settles_applyMerge {primary : String} {size entry : Float}
    {absorbed : String} (h : s.applyMerge now primary size entry absorbed = .ok s') :
    Settles s s' := by
  rw [(applyMerge_ok h).1]
  exact settles_modify fun r _ _ => ⟨rfl, rfl, rfl, rfl, fun h' => h'⟩

/-- A trade closed at an exit price rewrites its row, in an open store, with an exit price that
is not NaN. -/
theorem closeTrade_ok {exit : Float} {stamp : Instant} {reason : String}
    (h : s.closeTrade now id exit stamp reason = .ok s') :
    s' = (s.modify id (Row.close now exit stamp reason)).1 ∧ s.closed = false ∧
      exit.isNaN = false := by
  obtain ⟨h, hopen⟩ := guard_bind_ok h
  split at h
  · obtain ⟨h, hnum⟩ := requireNumbers_bind_ok h
    cases h
    rename_i hm
    exact ⟨by rw [hm], hopen, hnum ("exit_price", exit) List.mem_cons_self⟩
  · cases h

theorem settles_backfill {leg : Leg}
    {orderId : String} (h : s.backfill now id leg orderId = .ok s') : Settles s s' := by
  have h := (guard_bind_ok h).1
  cases h
  refine settles_modify fun r _ _ => ?_
  cases leg <;> dsimp only <;> split <;> exact ⟨rfl, rfl, rfl, rfl, fun h' => h'⟩

/-- A back-fill of an order id leaves the trade id and the status of every row as they were. -/
theorem backfill_rows {leg : Leg} {orderId : String}
    (h : s.backfill now id leg orderId = .ok s') :
    ∀ r' ∈ s'.rows, ∃ r ∈ s.rows, r'.trade.id = r.trade.id ∧ r'.trade.status = r.trade.status := by
  have h := (guard_bind_ok h).1
  cases h
  intro r' hr'
  rcases mem_modify hr' with ⟨r, hr, -, rfl⟩ | ⟨hr', -⟩
  · refine ⟨r, hr, ?_⟩
    cases leg <;> dsimp only <;> split <;> exact ⟨rfl, rfl⟩
  · exact ⟨r', hr', rfl, rfl⟩

/-- A fill goes through on the row of the trade's version, in an open store, with none of the
float columns it writes NaN: the trade comes back one version on, and its row holds the fill. -/
theorem updateFill_ok {t t' : Trade} (h : s.updateFill now t = .ok (t', s')) :
    t' = { t with version := t.version + 1, updatedAt := now } ∧
      s' = (s.modify t.id (Row.fill now t)).1 ∧ s.closed = false ∧
      (∃ r, s.find? t.id = some r ∧ r.trade.version = t.version) ∧
      ∀ c ∈ [("size", t.size), ("entry_price", t.entryPrice), ("exit_price", t.exitPrice),
        ("realized_pnl", t.realizedPnl), ("entry_filled_qty", t.entryFilledQty),
        ("exit_filled_qty", t.exitFilledQty)], c.2.isNaN = false := by
  obtain ⟨h, hopen⟩ := guard_bind_ok h
  split at h
  · rename_i r hr
    split at h
    · cases h
    · rename_i hv
      obtain ⟨h, hnum⟩ := requireNumbers_bind_ok h
      cases h
      exact ⟨rfl, rfl, hopen, ⟨r, hr, by simpa [bne_iff_ne] using hv⟩, hnum⟩
  · cases h

/-- A fill settles each row of the trade that is live wherever the written trade is. -/
theorem settles_updateFill {t t' : Trade}
    (hlive : ∀ r ∈ s.rows, r.trade.id = t.id → t.status.live = true → r.trade.status.live = true)
    (h : s.updateFill now t = .ok (t', s')) : Settles s s' := by
  rw [(updateFill_ok h).2.1]
  exact settles_modify fun r hr hid => ⟨rfl, rfl, rfl, rfl, hlive r hr hid⟩

/-- After a write of an id, each row of the id holds what the write made of it. -/
theorem write_rows {f : Trade → Trade}
    (h : s.write id now f = .ok s') {r' : Row} (hr' : r' ∈ s'.rows) (hid : r'.trade.id = id) :
    ∃ r ∈ s.rows, r' = Row.touch now { r with trade := f r.trade } := by
  rw [write_ok h] at hr'
  rcases mem_modify hr' with ⟨r, hr, -, rfl⟩ | ⟨-, hne⟩
  · exact ⟨r, hr, rfl⟩
  · exact absurd hid hne

theorem markStatus_status {status : TradeStatus}
    {reason : String} (h : s.markStatus now id status reason = .ok s') :
    ∀ r' ∈ s'.rows, r'.trade.id = id → r'.trade.status = status := by
  intro r' hr' hid
  obtain ⟨r, -, rfl⟩ := write_rows (guard_bind_ok h).1 hr' hid
  rfl

theorem markMerged_status {id primary reason : String}
    (h : s.markMerged now id primary reason = .ok s') :
    ∀ r' ∈ s'.rows, r'.trade.id = id → r'.trade.status = .merged := by
  intro r' hr' hid
  obtain ⟨r, -, rfl⟩ := write_rows (guard_bind_ok h).1 hr' hid
  rfl

/-- Marking a stored trade merged in an open store goes through. -/
theorem markMerged_ok {r : Row} (hr : r ∈ s.rows) (hid : r.trade.id = id)
    (hopen : s.closed = false) (now : Instant) (primary reason : String) :
    ∃ s', s.markMerged now id primary reason = .ok s' := by
  obtain ⟨s', hw⟩ := write_ok_of_mem now
    (fun t => { t with status := .merged, mergedIntoTradeId := primary, reason := reason }) hr hid
  refine ⟨s', ?_⟩
  unfold markMerged guard
  simp only [hopen, Bool.false_eq_true, if_false]
  exact hw

/-- A new row is added after the others, under an id no row had. -/
theorem create_ok {freshId : String} {t t' : Trade}
    (h : s.create now freshId t = .ok (t', s')) :
    s'.rows = s.rows ++ [Row.ofNew t'] ∧ (∀ r ∈ s.rows, r.trade.id ≠ t'.id) ∧
      s'.closed = s.closed ∧ t' = withDefaults now freshId t := by
  unfold create at h
  split at h
  · cases h
  · have h := (requireNumbers_bind_ok (guard_bind_ok h).1).1
    split at h
    · cases h
    · cases h
      rename_i hfound
      exact ⟨rfl, find?_none (by simpa using hfound), rfl, rfl⟩

end Store

/-- The store methods that write. -/
def StoreMethod.writes : StoreMethod → Bool
  | .backfill | .updateFill | .applyMerge | .markMerged | .markStatus | .closeTrade
  | .updateReconciled => true
  | _ => false

namespace FaultPlan

/-- No failure is staged for a method that writes. -/
def sparesWrites (p : FaultPlan) : Prop := ∀ e ∈ p.staged, e.1.writes = false

theorem sparesWrites_trip {p : FaultPlan} (hp : p.sparesWrites) (m : StoreMethod) :
    (p.trip m).1.sparesWrites := by
  unfold FaultPlan.trip
  split
  · exact hp
  · intro e he
    simp only [List.mem_map] at he
    obtain ⟨e₀, he₀, rfl⟩ := he
    split
    · rename_i hm
      rw [← beq_iff_eq.mp hm]
      exact hp e₀ he₀
    · exact hp e₀ he₀

theorem sparesWrites.trip_eq_none {p : FaultPlan} (hp : p.sparesWrites) {m : StoreMethod}
    (hm : m.writes = true) : (p.trip m).2 = none := by
  unfold FaultPlan.trip
  split
  · rfl
  · rename_i e f hfind
    have hmem := List.mem_of_find?_eq_some hfind
    have heq : e = m := by simpa using List.find?_some hfind
    exact absurd (hp _ hmem) (by simp [heq, hm])

end FaultPlan

end TradeLedger
