import TradeLedger.Proofs.Position.Weighted
import TradeLedger.Proofs.Position.Loading
import TradeLedger.Proofs.Position.Merges
import TradeLedger.Proofs.Number.Monotone
/-!
# A merge keeps the position through a reload

A merge folds a new trade into the primary of its group: it writes the primary's new size and
entry price (floats of the exact combined size and size-weighted entry), records the new trade
as absorbed, and marks it merged. The mark can fail after the absorption; the next load then
finds both live, and the repair drops the absorbed one, which the primary records. The absorbed
id must read back from the comma-joined text: an id with a comma does not, the repair keeps the
new trade, and the reloaded position counts it twice.

## Main definitions

* `Store.Row.Merges`: the store after a merge, row by row.
* `Desk.survivesRepair`: the repair read as a filter.

## Theorems

* `Desk.merge_keeps_position`: the reloaded position is that of the two legs before the merge.
* `comma_id_counted_twice`: an id with a comma is counted twice.
-/

namespace TradeLedger

namespace Desk

/-! ### The repair as a filter -/

/-- Whether a repair of `ts` keeps the trade `t`: it drops `t` when the trade that last recorded
absorbing it is in `ts` and in `t`'s group. -/
def survivesRepair (ts : List Trade) (t : Trade) : Bool :=
  match (absorbers ts).lookup t.id, ts.reverse.find? (fun p => some p.id == (absorbers ts).lookup t.id) with
  | some _, some p => groupKey p.symbol p.side != groupKey t.symbol t.side
  | _, _ => true

/-- A filter whose tests answer what a pure test does, whatever they change, answers the list
the pure filter keeps. -/
theorem exec_filterM_of_pure {α : Type} {p : α → DeskM Bool} {f : α → Bool} {l : List α}
    (hp : ∀ a ∈ l, ∀ d, ∃ d', exec (p a) d = (.ok (f a), d')) (d : Desk) :
    ∃ d', exec (l.filterM p) d = (.ok (l.filter f), d') := by
  -- the loop keeps, in reverse, what the filter keeps, after what it had gathered
  have loop : ∀ (m acc : List α) (d : Desk), (∀ a ∈ m, a ∈ l) →
      ∃ d', exec (List.filterAuxM p m acc) d = (.ok ((m.filter f).reverse ++ acc), d') := by
    intro m
    induction m with
    | nil => exact fun acc d _ => ⟨d, rfl⟩
    | cons a m ih =>
      intro acc d hm
      obtain ⟨d₁, h₁⟩ := hp a (hm a List.mem_cons_self) d
      rw [List.filterAuxM, exec_bind, h₁]
      obtain ⟨d', h'⟩ := ih (cond (f a) (a :: acc) acc) d₁ fun b hb => hm b (List.mem_cons_of_mem _ hb)
      refine ⟨d', ?_⟩
      dsimp only
      rw [h', List.filter_cons]
      cases f a <;> simp
  obtain ⟨d', h'⟩ := loop l [] d fun _ h => h
  refine ⟨d', ?_⟩
  rw [List.filterM, exec_bind, h']
  simp

/-- A repair answers the trades it keeps, whatever its marks do. -/
theorem exec_repairMerges (ts : List Trade) (d : Desk) :
    ∃ d', exec (repairMerges ts) d = (.ok (ts.filter (survivesRepair ts)), d') := by
  unfold repairMerges
  dsimp only
  split
  · -- no trade records an absorbed one, so every trade survives
    rename_i hempty
    refine ⟨d, ?_⟩
    rw [exec_pure, List.filter_eq_self.mpr fun t _ => ?_]
    rw [List.isEmpty_iff] at hempty
    simp [survivesRepair, hempty]
  · rw [exec_bind, exec_clock]
    refine exec_filterM_of_pure (fun t _ e => ?_) d
    unfold survivesRepair
    split
    · split
      · exact ⟨e, by simp_all⟩
      · rw [exec_bind, exec_ignoring_of_calm (calm_change (Store.markMerged_calm _ _ _ _))]
        exact ⟨_, Prod.ext (by simp_all) rfl⟩
    · exact ⟨e, by simp_all⟩

/-! ### Who absorbed a trade -/

/-- Recording the ids a trade lists: an id it lists, other than its own, is now recorded as
absorbed by it. -/
theorem lookup_record (t : Trade) (id : String) :
    ∀ (ids : List String) (acc : List (String × String)),
      (ids.foldl (fun acc x => if x != t.id then (x, t.id) :: acc.filter (·.1 != x) else acc)
        acc).lookup id = if id ∈ ids ∧ id ≠ t.id then some t.id else acc.lookup id
  | [], acc => by simp
  | x :: xs, acc => by
    rw [List.foldl_cons, lookup_record t id xs]
    by_cases hx : x = t.id
    · by_cases hid : id = t.id <;> simp [hx, hid]
    · by_cases hid : id = x
      · subst hid
        simp [hx]
      · simp [hx, hid, List.lookup_cons, List.lookup_filter_ne, beq_eq_false_iff_ne.mpr hid]

/-- The trade recorded as having absorbed `id` is the last one that lists it, other than
itself. -/
theorem lookup_absorbers (ts : List Trade) (id : String) :
    (absorbers ts).lookup id =
      (ts.reverse.find? fun t => decide (id ∈ t.mergedTradeIds ∧ id ≠ t.id)).map (·.id) := by
  suffices h : ∀ (acc : List (String × String)),
      (ts.foldl (fun acc t => t.mergedTradeIds.foldl (fun acc x =>
        if x != t.id then (x, t.id) :: acc.filter (·.1 != x) else acc) acc) acc).lookup id =
      ((ts.reverse.find? fun t => decide (id ∈ t.mergedTradeIds ∧ id ≠ t.id)).map (·.id)).or
        (acc.lookup id) by
    simpa [absorbers] using h []
  induction ts with
  | nil => simp
  | cons t ts ih =>
    intro acc
    rw [List.foldl_cons, ih, lookup_record, List.reverse_cons, List.find?_append]
    cases ts.reverse.find? fun t => decide (id ∈ t.mergedTradeIds ∧ id ≠ t.id)
    · by_cases h : id ∈ t.mergedTradeIds ∧ id ≠ t.id <;> simp [h]
    · rfl

/-- No trade is recorded as absorbing `id` when none lists it but itself. -/
theorem lookup_absorbers_none {ts : List Trade} {id : String}
    (h : ∀ t ∈ ts, id ∈ t.mergedTradeIds → id = t.id) : (absorbers ts).lookup id = none := by
  rw [lookup_absorbers, Option.map_eq_none_iff, List.find?_eq_none]
  intro t ht
  have := h t (List.mem_reverse.mp ht)
  by_cases hmem : id ∈ t.mergedTradeIds <;> simp_all

/-- A trade is recorded as absorbing `id` when it is the only one that lists it, other than
`id` itself. -/
theorem lookup_absorbers_unique {ts : List Trade} {id : String} {p : Trade} (hp : p ∈ ts)
    (hmem : id ∈ p.mergedTradeIds) (hne : id ≠ p.id)
    (h : ∀ t ∈ ts, id ∈ t.mergedTradeIds → id ≠ t.id → t = p) :
    (absorbers ts).lookup id = some p.id := by
  rw [lookup_absorbers]
  rcases hfind : ts.reverse.find? (fun t => decide (id ∈ t.mergedTradeIds ∧ id ≠ t.id)) with _ | u
  · have := List.find?_eq_none.mp hfind p (List.mem_reverse.mpr hp)
    simp_all
  · have hu := List.find?_some hfind
    simp only [decide_eq_true_eq] at hu
    rw [hfind, h u (List.mem_reverse.mp (List.mem_of_find?_eq_some hfind)) hu.1 hu.2]
    rfl

/-! ### Loading after an invalidation -/

/-- Loading a snapshot when none is cached and the live query answers: the snapshot of the
trader's live trades that the repair keeps. -/
theorem exec_snapshot_fresh {T : String} {d : Desk} {ts : List Trade}
    (hnone : d.snapshots.lookup T = none) (htrip : (d.plan.trip .listLive).2 = none)
    (hlive : d.store.live T = .ok ts) :
    ∃ d', exec (snapshot T) d = (.ok (Snapshot.ofTrades (ts.filter (survivesRepair ts))), d') := by
  unfold snapshot
  rw [exec_bind, exec_get]
  simp only [hnone]
  rw [exec_bind, exec_within, exec_read]
  simp only [htrip, hlive]
  obtain ⟨d₁, h₁⟩ := exec_repairMerges ts { d with plan := (d.plan.trip .listLive).1 }
  rw [exec_bind, h₁]
  simp only [exec_bind, exec_modify, exec_pure]
  exact ⟨_, rfl⟩

end Desk

namespace FaultPlan

/-- Every failure the plan stages is for the one method `m`. -/
def OnlyFails (p : FaultPlan) (m : StoreMethod) : Prop := ∀ e ∈ p.staged, e.1 = m

theorem OnlyFails.trip_eq_none {p : FaultPlan} {m m' : StoreMethod} (hp : p.OnlyFails m)
    (hm : m' ≠ m) : (p.trip m').2 = none := by
  unfold FaultPlan.trip
  split
  · rfl
  · rename_i e f hfind
    have heq : e = m' := by simpa using List.find?_some hfind
    exact absurd (heq ▸ hp _ (List.mem_of_find?_eq_some hfind)) hm

theorem OnlyFails.trip {p : FaultPlan} {m : StoreMethod} (hp : p.OnlyFails m) (m' : StoreMethod) :
    (p.trip m').1.OnlyFails m := by
  unfold FaultPlan.trip
  split
  · exact hp
  · intro e he
    simp only [List.mem_map] at he
    obtain ⟨e₀, he₀, rfl⟩ := he
    split
    · rename_i hm
      rw [← beq_iff_eq.mp hm]
      exact hp e₀ he₀
    · exact hp e₀ he₀

end FaultPlan

namespace Store

/-- Absorbing into a stored primary of an open store, at a size and entry price that are not
NaN, rewrites the primary's rows. -/
theorem applyMerge_eq {s : Store} {r : Row} (hr : r ∈ s.rows) {id : String} (hid : r.trade.id = id)
    (hopen : s.closed = false) (now : Instant) {size entry : Float}
    (hnum : size.isNaN = false ∧ entry.isNaN = false) (absorbed : String) :
    s.applyMerge now id size entry absorbed = .ok (s.modify id (Row.absorb now size entry absorbed)).1 := by
  have hsome : (s.find? id).isSome := by
    unfold find?
    exact List.find?_isSome.mpr ⟨r, hr, by simp [hid]⟩
  have hcols : requireNumbers ("apply merge on " ++ id ++ ": ")
      [("size", size), ("entry_price", entry)] = pure () :=
    requireNumbers_ok fun c hc => by rcases List.mem_pair.mp hc with rfl | rfl; exacts [hnum.1, hnum.2]
  unfold applyMerge guard modify
  simp [hopen, hsome, hcols, bind, Except.bind, pure, Except.pure]

theorem exists_modify {s : Store} (id : String) (f : Row → Row) (hf : ∀ r, (f r).trade.id = r.trade.id)
    {r : Row} (hr : r ∈ s.rows) : ∃ r' ∈ (s.modify id f).1.rows, r'.trade.id = r.trade.id := by
  have hrel : List.Forall₂ (fun r r' : Row => r'.trade.id = r.trade.id) s.rows (s.modify id f).1.rows :=
    forall₂_modify (R := fun r r' : Row => r'.trade.id = r.trade.id) (fun _ => rfl) fun r _ _ => hf r
  exact exists_of_forall₂_left hrel hr

/-- A row reads back when another that reads back has its time columns, its update time apart,
and the update time has a four-digit year. -/
theorem Row.scan_of_times {r r' : Row} (hr : Row.scan r = .ok r.trade)
    (hrec : r'.trade.reconciledAt = r.trade.reconciledAt) (hcre : r'.trade.createdAt = r.trade.createdAt)
    (hclo : r'.trade.closedAt = r.trade.closedAt) (hfill : r'.closeFilled = r.closeFilled)
    (hupd : r'.trade.updatedAt.hasFourDigitYear = true) : Row.scan r' = .ok r'.trade := by
  unfold Row.scan at hr ⊢
  dsimp only at hr ⊢
  rw [hrec, hcre, hclo, hfill]
  split at hr
  · cases hr
  · rename_i hnone
    rw [List.find?_eq_none] at hnone
    split
    · -- the column found unreadable is one that read before, or the update time
      rename_i hx
      have hsat := List.find?_some hx
      have hmem := List.mem_of_find?_eq_some hx
      simp only [List.mem_cons, List.not_mem_nil, or_false, forall_eq_or_imp, forall_eq] at hmem hnone
      obtain ⟨h₁, h₂, -, h₄⟩ := hnone
      rcases hmem with h | h | h | h <;> rw [h] at hsat
      · exact (h₁ hsat).elim
      · exact (h₂ hsat).elim
      · simp [hupd] at hsat
      · exact (h₄ hsat).elim
    · rfl

theorem scans_of_scanAll : ∀ {rows : List Row} {ts : List Trade}, scanAll rows = .ok ts →
    ∀ r ∈ rows, Row.scan r = .ok r.trade
  | [], _, _ => by simp
  | r :: rows, ts, h => by
    unfold scanAll at h
    rw [List.mapM_cons] at h
    rcases hr : Row.scan r with f | t
    · rw [hr] at h
      cases h
    · rw [hr] at h
      rcases hs : List.mapM (fun r => (Row.scan r).mapError (·.wrap "scan trade: ")) rows with
        f | ts'
      · rw [hs] at h
        cases h
      · intro r' hr'
        rcases List.mem_cons.mp hr' with rfl | hr'
        · rw [hr, ← Row.scan_ok hr]
        · exact scans_of_scanAll hs r' hr'

theorem scanAll_of_scans : ∀ {rows : List Row}, (∀ r ∈ rows, Row.scan r = .ok r.trade) →
    scanAll rows = .ok (rows.map (·.trade))
  | [], _ => rfl
  | r :: rows, h => by
    have hrest := scanAll_of_scans fun r' hr' => h r' (List.mem_cons_of_mem _ hr')
    unfold scanAll at hrest ⊢
    rw [List.mapM_cons, h r List.mem_cons_self, hrest]
    rfl

/-- A live row of a trader whose live trades were read reads back. -/
theorem scan_of_live {s : Store} {T : String} {ts : List Trade} (hlive : s.live T = .ok ts)
    {r : Row} (hr : r ∈ s.rows) (htr : r.trade.traderId = T) (hl : r.trade.status.live = true) :
    Row.scan r = .ok r.trade := by
  unfold live at hlive
  split at hlive
  · cases hlive
  · rcases hg : s.guard "query live trades: " with _ | ⟨⟩
    · simp [hg, bind, Except.bind] at hlive
    · simp only [hg, bind, Except.bind] at hlive
      exact scans_of_scanAll hlive r (by simp [mem_stableSort, hr, htr, hl])

/-- A live row of a trader whose live trades were read is read back by its id, when ids are not
repeated. -/
theorem get_of_live {s : Store} {T : String} {ts : List Trade} (hnd : (s.rows.map (·.trade.id)).Nodup)
    (hlive : s.live T = .ok ts) {r : Row} (hr : r ∈ s.rows) (htr : r.trade.traderId = T)
    (hl : r.trade.status.live = true) : s.get r.trade.id = .ok r.trade := by
  simp [get, guard, live_open hlive, find?_of_mem hnd hr, scan_of_live hlive hr htr hl, bind,
    Except.bind, Except.mapError, pure, Except.pure]

/-- The live query of a trader it accepts answers on an open store whose live rows of the trader
all read back. -/
theorem live_of_scans {s s' : Store} {T : String} {ts : List Trade} (hlive : s.live T = .ok ts)
    (hopen : s'.closed = false)
    (hscan : ∀ r ∈ s'.rows, r.trade.traderId = T → r.trade.status.live = true →
      Row.scan r = .ok r.trade) :
    ∃ ts', s'.live T = .ok ts' := by
  unfold live at hlive ⊢
  split at hlive
  · cases hlive
  · rename_i hT
    rw [if_neg hT]
    simp only [guard, hopen, bind, Except.bind]
    exact ⟨_, scanAll_of_scans fun r hr => by
      simp only [mem_stableSort, List.mem_filter, Bool.and_eq_true, beq_iff_eq] at hr
      exact hscan r hr.1 hr.2.1 hr.2.2⟩

/-- How a merge of `absorbed` into `primary` leaves a row: the primary absorbs it, the absorbed
trade's row stays or is marked merged, and every other row stays. -/
inductive Row.Merges (now : Instant) (size entry : Float) (primary absorbed : String) :
    Row → Row → Prop
  | absorb {r : Row} : r.trade.id = primary →
      Row.Merges now size entry primary absorbed r (Row.absorb now size entry absorbed r)
  | keep {r : Row} : r.trade.id ≠ primary → Row.Merges now size entry primary absorbed r r
  | mark {r r' : Row} : r.trade.id = absorbed → r.trade.id ≠ primary →
      r'.trade.id = r.trade.id → r'.trade.traderId = r.trade.traderId →
      r'.trade.status = .merged → Row.Merges now size entry primary absorbed r r'

namespace Row.Merges

variable {now : Instant} {size entry : Float} {primary absorbed : String} {r r' : Row}

theorem id_eq (h : Row.Merges now size entry primary absorbed r r') : r'.trade.id = r.trade.id := by
  cases h with
  | absorb => rfl
  | keep => rfl
  | mark _ _ hid => exact hid

/-- A mark of the absorbed trade after the merge is still one of the merge's moves. -/
theorem then_mark {r'' : Row} (hne : absorbed ≠ primary)
    (h : Row.Merges now size entry primary absorbed r r')
    (hm : r''.trade.id = r'.trade.id ∧ r''.trade.traderId = r'.trade.traderId ∧
      (r'.trade.id = absorbed → r''.trade.status = .merged) ∧ (r'.trade.id ≠ absorbed → r'' = r')) :
    Row.Merges now size entry primary absorbed r r'' := by
  obtain ⟨hid, htr, hmark, hkeep⟩ := hm
  cases h with
  | absorb hp =>
    rw [hkeep (by show r.trade.id ≠ absorbed; rw [hp]; exact Ne.symm hne)]
    exact .absorb hp
  | keep hp =>
    by_cases ha : r.trade.id = absorbed
    · exact .mark ha hp hid htr (hmark ha)
    · rw [hkeep ha]
      exact .keep hp
  | mark ha hp hid' htr' _ =>
    exact .mark ha hp (hid.trans hid') (htr.trans htr') (hmark (hid'.trans ha))

end Row.Merges

/-- Lists related one for one by `R` and then by `S` are related by whatever `R` then `S` gives. -/
theorem forall₂_comp {α β γ : Type} {R : α → β → Prop} {S : β → γ → Prop} {U : α → γ → Prop}
    (h : ∀ a b c, R a b → S b c → U a c) :
    ∀ {l₁ : List α} {l₂ : List β} {l₃ : List γ}, List.Forall₂ R l₁ l₂ → List.Forall₂ S l₂ l₃ →
      List.Forall₂ U l₁ l₃
  | _, _, _, .nil, .nil => .nil
  | _, _, _, .cons h₁ t₁, .cons h₂ t₂ => .cons (h _ _ _ h₁ h₂) (forall₂_comp h t₁ t₂)

section Merges

variable {s s' : Store} {now : Instant} {size entry : Float} {primary absorbed : String}

theorem merges_applyMerge (h : s.applyMerge now primary size entry absorbed = .ok s') :
    List.Forall₂ (Row.Merges now size entry primary absorbed) s.rows s'.rows := by
  rw [(applyMerge_ok h).1]
  exact forall₂_modify_of fun r _ => by
    split_ifs with hp
    exacts [.absorb hp, .keep hp]

theorem merges_markMerged {s₁ : Store} {now' : Instant} {reason : String} (hne : absorbed ≠ primary)
    (hrows : List.Forall₂ (Row.Merges now size entry primary absorbed) s.rows s₁.rows)
    (h : s₁.markMerged now' absorbed primary reason = .ok s') :
    List.Forall₂ (Row.Merges now size entry primary absorbed) s.rows s'.rows :=
  forall₂_comp (fun _ _ _ hm hmark => hm.then_mark hne hmark) hrows (markMerged_rows h).2

theorem ids_of_merges {rows rows' : List Row}
    (hrows : List.Forall₂ (Row.Merges now size entry primary absorbed) rows rows') :
    rows'.map (·.trade.id) = rows.map (·.trade.id) := by
  induction hrows with
  | nil => rfl
  | cons hab _ ih => rw [List.map_cons, List.map_cons, ih, hab.id_eq]

variable {T : String} {ts ts' : List Trade}

/-- After a merge stamped with a time of four-digit year, a trader's live trades still read. -/
theorem live_of_merges (hrows : List.Forall₂ (Row.Merges now size entry primary absorbed) s.rows s'.rows)
    (hopen : s'.closed = false) (hnow : now.hasFourDigitYear = true) (hlive : s.live T = .ok ts) :
    ∃ ts', s'.live T = .ok ts' := by
  refine live_of_scans hlive hopen fun r' hr' htr hl => ?_
  obtain ⟨r, hr, hm⟩ := exists_of_forall₂_right hrows hr'
  cases hm with
  | absorb => exact Row.scan_of_times (scan_of_live hlive hr htr hl) rfl rfl rfl rfl hnow
  | keep => exact scan_of_live hlive hr htr hl
  | mark _ _ _ _ hst => simp [hst, TradeStatus.live] at hl

/-- A trader's live trade after a merge is a primary that absorbed, or was live before. -/
theorem mem_live_of_merges (hrows : List.Forall₂ (Row.Merges now size entry primary absorbed) s.rows s'.rows)
    (hlive : s.live T = .ok ts) (hlive' : s'.live T = .ok ts') {t : Trade} (ht : t ∈ ts') :
    (∃ r ∈ s.rows, r.trade.id = primary ∧ t = (Row.absorb now size entry absorbed r).trade) ∨
      (t ∈ ts ∧ t.id ≠ primary) := by
  obtain ⟨r', hr', rfl, htr, hl⟩ := (mem_live hlive').mp ht
  obtain ⟨r, hr, hm⟩ := exists_of_forall₂_right hrows hr'
  cases hm with
  | absorb hp => exact .inl ⟨_, hr, hp, rfl⟩
  | keep hp => exact .inr ⟨(mem_live hlive).mpr ⟨_, hr, rfl, htr, hl⟩, hp⟩
  | mark _ _ _ _ hst => simp [hst, TradeStatus.live] at hl

theorem absorb_mem_live (hrows : List.Forall₂ (Row.Merges now size entry primary absorbed) s.rows s'.rows)
    (hlive' : s'.live T = .ok ts') {r : Row} (hr : r ∈ s.rows) (hp : r.trade.id = primary)
    (htr : r.trade.traderId = T) (hl : r.trade.status.live = true) :
    (Row.absorb now size entry absorbed r).trade ∈ ts' := by
  obtain ⟨r', hr', hm⟩ := exists_of_forall₂_left hrows hr
  cases hm with
  | absorb => exact (mem_live hlive').mpr ⟨_, hr', rfl, htr, hl⟩
  | keep hp' => exact absurd hp hp'
  | mark _ hp' => exact absurd hp hp'

end Merges

end Store

namespace Desk

/-- A merge of a stored trade into a stored primary, when only the mark of the merged trade can
fail: every row moves as a merge moves it (the primary absorbs, the merged trade is marked or
left as it was), the store stays open, the trader's cached snapshot is dropped, and still only
the mark can fail. -/
theorem merge_writes {d d₁ : Desk} {c : Conflict} {P N : Trade} {res : Except Fault Outcome}
    {size entry : Float} (hplan : d.plan.OnlyFails .markMerged) (hopen : d.store.closed = false)
    (hP : ∃ r ∈ d.store.rows, r.trade.id = P.id) (hget : d.store.get P.id = .ok P)
    (hN : ∃ r ∈ d.store.rows, r.trade.id = N.id) (hne : N.id ≠ P.id)
    (hprimary : c.existing.primaryTradeId = P.id)
    (hw : weightedEntry P.size P.entryPrice N.size N.entryPrice = .ok (size, entry))
    (hnum : size.isNaN = false ∧ entry.isNaN = false)
    (h : exec (merge c (NewTrade.ofTrade N)) d = (res, d₁)) :
    List.Forall₂ (Store.Row.Merges d.now size entry P.id N.id) d.store.rows d₁.store.rows ∧
      d₁.store.closed = false ∧ d₁.snapshots.lookup N.traderId = none ∧
      d₁.plan.OnlyFails .markMerged := by
  obtain ⟨rP, hrP, hidP⟩ := hP
  obtain ⟨rN, hrN, hidN⟩ := hN
  have happly := Store.applyMerge_eq hrP hidP hopen d.now hnum N.id
  -- the absorption keeps the new trade's row and leaves the store open
  obtain ⟨rN', hrN', hidN'⟩ := Store.exists_modify P.id
    (Store.Row.absorb d.now size entry N.id) (fun _ => rfl) hrN
  have hopen₁ := (Store.modify_closed d.store P.id (Store.Row.absorb d.now size entry N.id)).trans hopen
  have hrows₁ := Store.merges_applyMerge happly
  generalize (d.store.modify P.id (Store.Row.absorb d.now size entry N.id)).1 = s₁
    at happly hrN' hopen₁ hrows₁
  unfold merge at h
  rw [exec_bind, exec_clock] at h
  dsimp only at h
  rw [exec_bind, exec_within, exec_read, hplan.trip_eq_none (by decide), hprimary, hget] at h
  dsimp only at h
  rw [exec_bind, exec_exact] at h
  simp only [NewTrade.ofTrade, hw] at h
  rw [exec_bind, exec_within, exec_change, (hplan.trip .getTrade).trip_eq_none (by decide),
    happly] at h
  dsimp only at h
  rw [exec_bind, exec_attempt, exec_change] at h
  dsimp only at h
  -- the drop of the trader's snapshot, on either path
  have hdrop : ∀ e : Desk, (e.drop N.traderId).snapshots.lookup N.traderId = none := fun e => by
    simp [drop, List.lookup_filter_ne]
  rcases htrip : (((d.plan.trip .getTrade).1.trip .applyMerge).1.trip .markMerged).2 with _ | f
  · -- the mark goes through
    obtain ⟨s₂, hmark⟩ := Store.markMerged_ok hrN' (hidN'.trans hidN) hopen₁ d.now P.id
      ("merged into " ++ P.id)
    rw [htrip, hmark] at h
    simp only [exec_bind, exec_setCooldown, exec_invalidate, exec_tally, exec_pure] at h
    obtain ⟨-, rfl⟩ := Prod.mk.inj h
    exact ⟨Store.merges_markMerged hne hrows₁ hmark, (Store.markMerged_rows hmark).1.trans hopen₁,
      hdrop _, ((hplan.trip _).trip _).trip _⟩
  · -- the mark fails: the store keeps the absorption alone
    have hcalm := trip_calm htrip
    rw [htrip] at h
    dsimp only at h
    rw [if_neg (by simpa using hcalm)] at h
    simp only [exec_bind, exec_invalidate, exec_throw] at h
    obtain ⟨-, rfl⟩ := Prod.mk.inj h
    exact ⟨hrows₁, hopen₁, hdrop _, ((hplan.trip _).trip _).trip _⟩

/-- A list of distinct entries that holds `a` and nothing else is `[a]`. -/
theorem eq_singleton_of_nodup {α : Type} {l : List α} {a : α} (hnd : l.Nodup) (ha : a ∈ l)
    (h : ∀ b ∈ l, b = a) : l = [a] := by
  rw [List.eq_replicate_of_mem h] at hnd ⊢
  have hle : l.length ≤ 1 := List.nodup_replicate.mp hnd
  have hpos : 0 < l.length := List.length_pos_of_mem ha
  rw [show l.length = 1 by omega]
  rfl

/-- A repair after a merge leaves the absorbing primary alone in its group. Before the merge the
group held only `P` and the absorbed `N`, neither recorded as absorbed by a live trade; after it
the live trades are `P'` (the primary as it absorbed, recording `N`) and trades read before
other than `P`. The repair keeps `P'`, which nothing records, and drops `N` if still live. -/
theorem group_after_repair {ts ts' : List Trade} {P N P' : Trade}
    (hgroup : (Snapshot.ofTrades ts).group (groupKey N.symbol N.side) = [P, N] ∨
      (Snapshot.ofTrades ts).group (groupKey N.symbol N.side) = [N, P])
    (hfresh : ∀ t ∈ ts, P.id ∉ t.mergedTradeIds ∧ N.id ∉ t.mergedTradeIds)
    (hmem : P' ∈ ts') (hsub : ∀ t ∈ ts', t = P' ∨ (t ∈ ts ∧ t.id ≠ P.id))
    (hnd : (ts'.map (·.id)).Nodup) (hid : P'.id = P.id)
    (hkey : groupKey P'.symbol P'.side = groupKey P.symbol P.side)
    (hrec : N.id ∈ P'.mergedTradeIds) (hne : N.id ≠ P.id) :
    (Snapshot.ofTrades (ts'.filter (survivesRepair ts'))).group (groupKey N.symbol N.side) = [P'] := by
  set K := groupKey N.symbol N.side
  -- the group before the merge: `P` and `N`, both under `K`, and nothing else
  have hG : ∀ t, t ∈ ts ∧ groupKey t.symbol t.side = K ↔ t = P ∨ t = N := by
    intro t
    have ht := congrArg (t ∈ ·) (Snapshot.group_ofTrades ts K)
    simp only [List.mem_filter, beq_iff_eq, eq_iff_iff] at ht
    rw [← ht]
    rcases hgroup with h | h <;> rw [h] <;> simp [or_comm]
  have hPK : groupKey P.symbol P.side = K := ((hG P).mpr (.inl rfl)).2
  -- the only live trade with the primary's id is `P'`
  have honly : ∀ t ∈ ts', t.id = P.id → t = P' := fun t ht htid =>
    (hsub t ht).resolve_right fun h => h.2 htid
  have hP' : survivesRepair ts' P' = true := by
    have hnone : (absorbers ts').lookup P'.id = none := by
      refine lookup_absorbers_none fun t ht hin => ?_
      rcases hsub t ht with rfl | ⟨ht, -⟩
      · rfl
      · exact absurd (hid ▸ hin) (hfresh t ht).1
    simp [survivesRepair, hnone]
  -- `N`, if still live, is recorded as absorbed by `P'`, of its own group
  have hN : ∀ t ∈ ts', t = N → survivesRepair ts' t = false := by
    rintro t ht rfl
    have hlook : (absorbers ts').lookup t.id = some P'.id :=
      lookup_absorbers_unique hmem hrec (hid ▸ hne) fun u hu hin _ =>
        (hsub u hu).resolve_right fun h => (hfresh u h.1).2 hin
    have hfind : ts'.reverse.find? (fun p => some p.id == some P'.id) = some P' := by
      rcases hf : ts'.reverse.find? (fun p => some p.id == some P'.id) with _ | p
      · have := List.find?_eq_none.mp hf P' (List.mem_reverse.mpr hmem)
        simp at this
      · have hp : p.id = P'.id := by simpa using List.find?_some hf
        rw [hf, honly p (List.mem_reverse.mp (List.mem_of_find?_eq_some hf)) (hp.trans hid)]
    unfold survivesRepair
    rw [hlook, hfind]
    simp [hkey, hPK, K]
  rw [Snapshot.group_ofTrades, List.filter_filter]
  refine eq_singleton_of_nodup ((hnd.of_map _).sublist List.filter_sublist) ?_ fun t ht => ?_
  · simp [hmem, hP', hkey, hPK]
  · simp only [List.mem_filter, Bool.and_eq_true, beq_iff_eq] at ht
    obtain ⟨ht, hK, hs⟩ := ht
    rcases hsub t ht with rfl | ⟨ht₀, htid⟩
    · rfl
    · rcases (hG t).mp ⟨ht₀, hK⟩ with rfl | rfl
      · exact absurd rfl htid
      · rw [hN _ ht rfl] at hs
        cases hs

theorem exec_resolveConflict_merge {c : Conflict} (haction : c.action = .merge) (nt : NewTrade)
    (d : Desk) : exec (resolveConflict (some c) nt) d = exec (merge c nt) d := by
  simp only [resolveConflict, haction]

/-- A merge keeps the position. Let a primary `P` and a new trade `N` be the only live trades of
their group, with positive sizes and no live trade recording either as absorbed. When a merge of
`N` into `P` runs with only the mark of `N` able to fail, completed or stopped after the
absorption, the reloaded snapshot gives the group the size and entry price of the position over
`P` and `N` before the merge, with the same trades but `N`. This needs the exact combined size
and weighted entry to be floats, the absorbed id to read back from the primary's record, and a
clock with a four-digit year. -/
theorem merge_keeps_position {d d₁ : Desk} {c : Conflict} {P N : Trade} {ts : List Trade}
    {T Q : Decimal} {res : Except Fault Outcome}
    (hnd : (d.store.rows.map (·.trade.id)).Nodup) (hplan : d.plan.OnlyFails .markMerged)
    (hnow : d.now.hasFourDigitYear = true) (hlive : d.store.live N.traderId = .ok ts)
    (hgroup : (Snapshot.ofTrades ts).group (groupKey N.symbol N.side) = [P, N] ∨
      (Snapshot.ofTrades ts).group (groupKey N.symbol N.side) = [N, P])
    (hfresh : ∀ t ∈ ts, P.id ∉ t.mergedTradeIds ∧ N.id ∉ t.mergedTradeIds)
    (hreads : ∀ r ∈ d.store.rows, r.trade.id = P.id →
      N.id ∈ splitIds (Store.mergedTextWith r.mergedText N.id))
    (hPid : P.id ≠ "") (hNid : N.id ≠ "") (hPpos : 0 < P.size) (hNpos : 0 < N.size)
    (hmerge : mergeDecimals P.size P.entryPrice N.size N.entryPrice = .ok (T, Q))
    (hT : Binary64.Representable T.value) (hQ : Binary64.Representable Q.value)
    (hprimary : c.existing.primaryTradeId = P.id) (haction : c.action = .merge)
    (hrun : exec (resolveConflict (some c) (NewTrade.ofTrade N)) d = (res, d₁)) :
    ∃ S d₂, exec (snapshot N.traderId) d₁ = (.ok S, d₂) ∧
      ∃ pos pos', (Snapshot.ofTrades ts).position N.traderId N.symbol N.side "" = .ok (some pos) ∧
        S.position N.traderId N.symbol N.side "" = .ok (some pos') ∧
        pos'.size = pos.size ∧ pos'.entryPrice = pos.entryPrice ∧
        pos'.tradeIds = pos.tradeIds.filter (· ≠ N.id) := by
  rw [exec_resolveConflict_merge haction] at hrun
  set K := groupKey N.symbol N.side
  -- the two legs are live rows of the trader, of distinct ids
  have hmemG : P ∈ (Snapshot.ofTrades ts).group K ∧ N ∈ (Snapshot.ofTrades ts).group K := by
    rcases hgroup with h | h <;> simp [h]
  rw [Snapshot.group_ofTrades] at hmemG
  obtain ⟨⟨hPts, hPK⟩, ⟨hNts, -⟩⟩ := And.imp List.mem_filter.mp List.mem_filter.mp hmemG
  obtain ⟨rP, hrP, rfl, hPtr, hPl⟩ := (Store.mem_live hlive).mp hPts
  obtain ⟨rN, hrN, rfl, -, -⟩ := (Store.mem_live hlive).mp hNts
  have hne : rN.trade.id ≠ rP.trade.id := by
    have hids : (((Snapshot.ofTrades ts).group K).map (·.id)).Nodup := by
      rw [Snapshot.group_ofTrades]
      exact (Store.live_nodup hnd hlive).sublist (List.filter_sublist.map _)
    rcases hgroup with h | h <;> rw [h] at hids <;> simp at hids
    · exact Ne.symm hids
    · exact hids
  -- the merge writes the float of the exact total and weighted entry
  have hw := weightedEntry_of_mergeDecimals hmerge (mergeDecimals_total_pos hmerge hPpos hNpos)
  obtain ⟨hrows, hopen₁, hnone, hplan₁⟩ := merge_writes hplan (Store.live_open hlive)
    ⟨rP, hrP, rfl⟩ (Store.get_of_live hnd hlive hrP hPtr hPl) ⟨rN, hrN, rfl⟩ hne hprimary hw
    ⟨T.toFloat_isNaN, Q.toFloat_isNaN⟩ hrun
  -- the trader's live trades after it: the absorbed primary, and trades read before
  obtain ⟨ts₂, hlive₂⟩ := Store.live_of_merges hrows hopen₁ hnow hlive
  obtain ⟨d₂, hload⟩ := exec_snapshot_fresh hnone (hplan₁.trip_eq_none (by decide)) hlive₂
  set P' := (Store.Row.absorb d.now T.toFloat Q.toFloat rN.trade.id rP).trade
  have hP' : P' ∈ ts₂ := Store.absorb_mem_live hrows hlive₂ hrP rfl hPtr hPl
  have hsub : ∀ t ∈ ts₂, t = P' ∨ (t ∈ ts ∧ t.id ≠ rP.trade.id) := fun t ht => by
    rcases Store.mem_live_of_merges hrows hlive hlive₂ ht with ⟨r, hr, hid, rfl⟩ | h
    · rw [List.inj_on_of_nodup_map hnd hr hrP hid]
      exact .inl rfl
    · exact .inr h
  have hnd₂ := Store.live_nodup ((Store.ids_of_merges hrows).symm ▸ hnd) hlive₂
  have hS := group_after_repair hgroup hfresh hP' hsub hnd₂ rfl rfl (hreads rP hrP rfl) hne
  obtain ⟨pos, pos', hagg, hagg', hsz, hen, hids⟩ :=
    aggregate_merged_primary rN.trade.traderId hgroup hPid hNid hne hPpos hNpos hmerge hT hQ
      (show P'.id = rP.trade.id from rfl) rfl rfl
  refine ⟨_, d₂, hload, pos, pos', ?_, ?_, hsz, hen, hids⟩
  · exact hagg
  · unfold Snapshot.position
    rw [hS]
    exact hagg'

end Desk

/-! ### A merge stopped at the mark -/

open Desk

/-- The live trades of `T` on `failingMarkDesk`: `n`, pending, and `p`, created at the same time
and sorted after it by id. -/
def halfMergeLive : List Trade :=
  (failingMarkDesk.store.live "T").toOption.getD []

/-- The BTC long group of those trades. -/
def halfMergeGroup : List Trade := (Snapshot.ofTrades halfMergeLive).group (groupKey "BTC" .long)

/-- The primary `p`, second in its group. -/
def halfMergePrimary : Trade := halfMergeGroup.getD 1 default

/-- The new trade `n`, first in its group. -/
def halfMergeNew : Trade := halfMergeGroup.getD 0 default

/-- The conflict an admission of `n` finds: a merge into `p`. -/
def halfMergeConflict : Conflict :=
  { newTradeId := "n", traderId := "T", symbol := "BTC", side := .long,
    existing := { primaryTradeId := halfMergePrimary.id }, type := .sameSide, action := .merge }

/-- The exact combined size and weighted entry of `p` and `n`. -/
def halfMergeDecimals : Decimal × Decimal :=
  match mergeDecimals halfMergePrimary.size halfMergePrimary.entryPrice halfMergeNew.size
      halfMergeNew.entryPrice with
  | .ok x => x
  | .error _ => default

/-- On the desk where the mark of a merge fails once, merging `n` into `p` stops after the
absorption, and the reloaded BTC long position has the size and entry of `p` and `n` together. -/
theorem half_merge_keeps_position :
    ∃ S d₂, exec (snapshot halfMergeNew.traderId)
        (exec (resolveConflict (some halfMergeConflict) (NewTrade.ofTrade halfMergeNew))
          failingMarkDesk).2 = (.ok S, d₂) ∧
      ∃ pos pos', (Snapshot.ofTrades halfMergeLive).position halfMergeNew.traderId
          halfMergeNew.symbol halfMergeNew.side "" = .ok (some pos) ∧
        S.position halfMergeNew.traderId halfMergeNew.symbol halfMergeNew.side "" = .ok (some pos') ∧
        pos'.size = pos.size ∧ pos'.entryPrice = pos.entryPrice ∧
        pos'.tradeIds = pos.tradeIds.filter (· ≠ halfMergeNew.id) := by
  have hlive : failingMarkDesk.store.live halfMergeNew.traderId = .ok halfMergeLive := by
    have hT : halfMergeNew.traderId = "T" := by decide +kernel
    have hok : (failingMarkDesk.store.live "T").isOk = true := by decide +kernel
    rw [hT]
    unfold halfMergeLive
    rcases h : failingMarkDesk.store.live "T" with e | ts
    · rw [h] at hok
      cases hok
    · rfl
  have hgroup : (Snapshot.ofTrades halfMergeLive).group (groupKey halfMergeNew.symbol halfMergeNew.side) =
      [halfMergeNew, halfMergePrimary] := by
    have hK : groupKey halfMergeNew.symbol halfMergeNew.side = groupKey "BTC" .long := by
      decide +kernel
    have hlen : halfMergeGroup.length = 2 := by decide +kernel
    obtain ⟨a, b, hab⟩ := List.length_eq_two.mp hlen
    rw [hK]
    change halfMergeGroup = [halfMergeGroup.getD 0 default, halfMergeGroup.getD 1 default]
    rw [hab]
    rfl
  have hreads : ∀ r ∈ failingMarkDesk.store.rows, r.trade.id = halfMergePrimary.id →
      halfMergeNew.id ∈ splitIds (Store.mergedTextWith r.mergedText halfMergeNew.id) := by
    have hid : halfMergeNew.id = "n" := by decide +kernel
    have htexts : failingMarkDesk.store.rows.map (·.mergedText) = ["", ""] := by decide +kernel
    have hsplit : splitIds (Store.mergedTextWith "" "n") = ["n"] := by cbv
    intro r hr _
    have hr' : r.mergedText ∈ ["", ""] := htexts ▸ List.mem_map_of_mem hr
    rw [show r.mergedText = "" by simpa using hr', hid, hsplit]
    exact List.mem_singleton_self _
  have hmerge : mergeDecimals halfMergePrimary.size halfMergePrimary.entryPrice halfMergeNew.size
      halfMergeNew.entryPrice = .ok (halfMergeDecimals.1, halfMergeDecimals.2) := by
    decide +kernel
  have hT : Binary64.Representable halfMergeDecimals.1.value :=
    ⟨halfMergeDecimals.1.toFloat, by decide +kernel⟩
  have hQ : Binary64.Representable halfMergeDecimals.2.value :=
    ⟨halfMergeDecimals.2.toFloat, by decide +kernel⟩
  exact merge_keeps_position (c := halfMergeConflict) (by decide +kernel)
    (by unfold FaultPlan.OnlyFails; decide +kernel) (by decide +kernel) hlive (.inr hgroup)
    (by decide +kernel) hreads (by decide +kernel) (by decide +kernel) (by decide +kernel)
    (by decide +kernel) hmerge hT hQ rfl rfl rfl

/-! ### An absorbed id with a comma in it -/

/-- A long trade `p` on BTC admitted, and a second long trade on BTC, of two units, created
under an id with a comma in it. -/
def commaSession : List Request :=
  [.create "" (sampleTrade "p" "BTC" .long), .admitById "p",
    .create "" { sampleTrade "n,x" "BTC" .long with size := 2 }]

/-- The desk the session leaves, with the mark of a merge failing once. -/
def commaDesk : Desk :=
  { (Request.session commaSession { now := none }).1 with
    plan := ({} : FaultPlan).stage .markMerged { error := "boom", times := 1, skip := 0 } }

/-- The live trades of `T` on that desk: `n,x` first, as it sorts before `p`. -/
def commaLive : List Trade := (commaDesk.store.live "T").toOption.getD []

/-- The new trade `n,x`. -/
def commaNew : Trade := commaLive.getD 0 default

/-- The primary `p`. -/
def commaPrimary : Trade := commaLive.getD 1 default

/-- The conflict an admission of `n,x` finds: a merge into `p`. -/
def commaConflict : Conflict :=
  { newTradeId := "n,x", traderId := "T", symbol := "BTC", side := .long,
    existing := { primaryTradeId := "p" }, type := .sameSide, action := .merge }

/-- With the mark failing once, merging `n,x` into `p` stops after the absorption. `p` records the
absorbed id in its comma-joined text, which reads back as the two ids `n` and `x`, so the repair
on the next load keeps `n,x`, and the reloaded position counts its two units twice: five units,
where the two legs held three. -/
theorem comma_id_counted_twice :
    ((Snapshot.ofTrades commaLive).position "T" "BTC" .long "").toOption.join.map (·.size) == some 3 ∧
      ∃ S d₂, exec (snapshot "T")
          (exec (resolveConflict (some commaConflict) (.ofTrade commaNew)) commaDesk).2 = (.ok S, d₂) ∧
        (S.position "T" "BTC" .long "").toOption.join.map (·.size) == some 5 := by
  refine ⟨by decide +kernel, ?_⟩
  set d₁ := (exec (resolveConflict (some commaConflict) (.ofTrade commaNew)) commaDesk).2
  have hlive : commaDesk.store.live "T" = .ok commaLive := by
    have hok : (commaDesk.store.live "T").isOk = true := by decide +kernel
    unfold commaLive
    rcases h : commaDesk.store.live "T" with e | ts
    · rw [h] at hok
      cases hok
    · rfl
  have hnd : (commaDesk.store.rows.map (·.trade.id)).Nodup := by decide +kernel
  have hlen : commaLive.length = 2 := by decide +kernel
  have hmemP : commaPrimary ∈ commaLive := by
    show commaLive.getD 1 default ∈ commaLive
    rw [List.getD_eq_getElem _ _ (by omega)]
    exact List.getElem_mem _
  have hmemN : commaNew ∈ commaLive := by
    show commaLive.getD 0 default ∈ commaLive
    rw [List.getD_eq_getElem _ _ (by omega)]
    exact List.getElem_mem _
  obtain ⟨rP, hrP, hP, hPtr, hPl⟩ := (Store.mem_live hlive).mp hmemP
  obtain ⟨rN, hrN, hN, -, -⟩ := (Store.mem_live hlive).mp hmemN
  -- the merge writes the absorption and then fails at the mark
  have hrun : exec (merge commaConflict (.ofTrade commaNew)) commaDesk =
      ((exec (resolveConflict (some commaConflict) (.ofTrade commaNew)) commaDesk).1, d₁) := by
    rw [← exec_resolveConflict_merge rfl]
  have hw : weightedEntry commaPrimary.size commaPrimary.entryPrice commaNew.size
      commaNew.entryPrice = .ok (3, 100) := by
    decide +kernel
  obtain ⟨hrows, hopen₁, hnone, hplan₁⟩ := merge_writes
    (by unfold FaultPlan.OnlyFails; decide +kernel) (by decide +kernel) ⟨rP, hrP, by rw [hP]⟩
    (hP ▸ Store.get_of_live hnd hlive hrP hPtr hPl) ⟨rN, hrN, by rw [hN]⟩ (by decide +kernel)
    (by decide +kernel) hw (by decide +kernel) hrun
  -- the reload finds `n,x` and the absorbed `p`, and the repair keeps both
  have hlive₂ : d₁.store.live "T" = .ok ((d₁.store.live "T").toOption.getD []) := by
    have hok : (d₁.store.live "T").isOk = true := by decide +kernel
    rcases h : d₁.store.live "T" with e | ts
    · rw [h] at hok
      cases hok
    · rfl
  set ts₂ := (d₁.store.live "T").toOption.getD []
  have hT : commaNew.traderId = "T" := by decide +kernel
  rw [hT] at hnone
  obtain ⟨d₂, hload⟩ := exec_snapshot_fresh hnone (hplan₁.trip_eq_none (by decide)) hlive₂
  have hids₂ : ts₂.map (·.id) = ["n,x", "p"] := by decide +kernel
  have hkeep : ts₂.filter (survivesRepair ts₂) = ts₂ := by
    refine List.filter_eq_self.mpr fun t ht => ?_
    have hnone : (absorbers ts₂).lookup t.id = none := by
      refine lookup_absorbers_none fun t' ht' hin => ?_
      have htid : t.id ∈ ["n,x", "p"] := hids₂ ▸ List.mem_map_of_mem ht
      rcases Store.mem_live_of_merges hrows hlive hlive₂ ht' with ⟨r, hr, -, rfl⟩ | ⟨ht'₀, -⟩
      · -- the absorbed `p` records `n` and `x`
        have htexts : commaDesk.store.rows.map (·.mergedText) = ["", ""] := by decide +kernel
        have hr' : r.mergedText ∈ ["", ""] := htexts ▸ List.mem_map_of_mem hr
        have hnew : commaNew.id = "n,x" := by decide +kernel
        have hsplit : splitIds (Store.mergedTextWith "" "n,x") = ["n", "x"] := by cbv
        change t.id ∈ splitIds (Store.mergedTextWith r.mergedText commaNew.id) at hin
        rw [show r.mergedText = "" by simpa using hr', hnew, hsplit] at hin
        simp only [List.mem_cons, List.not_mem_nil, or_false] at hin htid
        rcases hin with h | h <;> rcases htid with h' | h' <;> rw [h] at h' <;> exact absurd h' (by decide)
      · -- the trades read before record nothing
        have hnil : ∀ t ∈ commaLive, t.mergedTradeIds = [] := by decide +kernel
        rw [hnil t' ht'₀] at hin
        cases hin
    simp [survivesRepair, hnone]
  rw [hkeep] at hload
  exact ⟨_, d₂, hload, by decide +kernel⟩

end TradeLedger
