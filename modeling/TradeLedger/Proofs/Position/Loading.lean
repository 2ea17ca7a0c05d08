import TradeLedger.Proofs.Position.Freshness
import TradeLedger.Proofs.Position.Admission
/-!
# Loading a snapshot

A trader's snapshot is loaded from the trader's live rows after a repair finishes half-done
merges: a live trade another live trade records as absorbed is marked merged and left out.

## Main definitions

* `Desk.Repaired`: the repair marks merged exactly the trades it leaves out.

## Theorems

* `Desk.snapshot_load`: the load agrees with the store it leaves.
* `Desk.snapshot_read`: from fresh cached snapshots, a read answers a fresh snapshot.
-/

namespace TradeLedger

namespace Desk

/-! ### Loops that mark what they drop -/

/-- What a filter over a list of distinct elements leaves for each of them: an element it keeps
still has the mark `K` it had at the start, and an element it drops has the mark `D`. The tests
keep an invariant `I`; a test that answers false gives its element `D`; the test of another
element, or a test that answers true, takes neither mark away. -/
theorem filterM_marks {α : Type} {p : α → DeskM Bool} {l : List α} (hl : l.Nodup)
    (I : Desk → Prop) (K D : α → Desk → Prop)
    (hI : ∀ b ∈ l, ∀ d d' v, I d → exec (p b) d = (.ok v, d') → I d')
    (hK : ∀ a ∈ l, ∀ b ∈ l, ∀ d d' v, I d → K a d → exec (p b) d = (.ok v, d') →
      (b ≠ a ∨ v = true) → K a d')
    (hD : ∀ a ∈ l, ∀ d d', I d → exec (p a) d = (.ok false, d') → D a d')
    (hDlast : ∀ a ∈ l, ∀ b ∈ l, ∀ d d' v, I d → D a d → exec (p b) d = (.ok v, d') → b ≠ a →
      D a d')
    {d d' : Desk} {res : List α} (hd : I d) (h : exec (l.filterM p) d = (.ok res, d')) :
    I d' ∧ (∀ a ∈ res, a ∈ l) ∧ ∀ a ∈ l, K a d → (a ∈ res → K a d') ∧ (a ∉ res → D a d') := by
  -- the loop with its accumulator: what it has kept stays kept, and marks of elements it does
  -- not test survive it
  have loop : ∀ (m acc : List α) (d d' : Desk) (res : List α), (∀ b ∈ m, b ∈ l) → m.Nodup →
      (∀ a ∈ acc, a ∉ m) → I d → exec (List.filterAuxM p m acc) d = (.ok res, d') →
      I d' ∧ (∀ a ∈ res, a ∈ acc ∨ a ∈ m) ∧ (∀ a ∈ acc, a ∈ res) ∧
      (∀ a ∈ m, K a d → (a ∈ res → K a d') ∧ (a ∉ res → D a d')) ∧
      (∀ a ∈ l, a ∉ m → (K a d → K a d') ∧ (D a d → D a d')) := by
    intro m
    induction m with
    | nil =>
      intro acc d d' res _ _ _ hd h
      cases h
      exact ⟨hd, fun a ha => .inl ha, fun _ ha => ha, by simp, fun _ _ _ => ⟨id, id⟩⟩
    | cons b m ih =>
      intro acc d d' res hm hnd hacc hd h
      obtain ⟨v, d₁, h₁, h₂⟩ := exec_bind_ok h
      have hb : b ∈ l := hm b List.mem_cons_self
      have hbm : b ∉ m := (List.nodup_cons.mp hnd).1
      have hd₁ : I d₁ := hI b hb d d₁ v hd h₁
      obtain ⟨hI', hres, hkept, hmarks, hrest⟩ := ih (cond v (b :: acc) acc) d₁ d' res
        (fun c hc => hm c (List.mem_cons_of_mem _ hc)) (List.nodup_cons.mp hnd).2
        (fun a ha => by
          cases v
          · exact fun ham => hacc a ha (List.mem_cons_of_mem _ ham)
          · rcases List.mem_cons.mp ha with rfl | ha
            · exact hbm
            · exact fun ham => hacc a ha (List.mem_cons_of_mem _ ham)) hd₁ h₂
      refine ⟨hI', fun a ha => ?_, fun a ha => hkept a (by cases v <;> simp [ha]), ?_, ?_⟩
      · rcases hres a ha with ha | ha
        · cases v
          · exact .inl ha
          · rcases List.mem_cons.mp ha with rfl | ha
            · exact .inr List.mem_cons_self
            · exact .inl ha
        · exact .inr (List.mem_cons_of_mem _ ha)
      · intro a ha hK₀
        rcases List.mem_cons.mp ha with rfl | ha
        · -- the element tested now
          cases v
          · have hout : a ∉ res := fun hin => by
              rcases hres a hin with hin | hin
              · exact hacc a hin List.mem_cons_self
              · exact hbm hin
            exact ⟨fun hin => absurd hin hout, fun _ => ((hrest a hb hbm).2 (hD a hb d d₁ hd h₁))⟩
          · exact ⟨fun _ => (hrest a hb hbm).1 (hK a hb a hb d d₁ true hd hK₀ h₁ (.inr rfl)),
              fun hout => absurd (hkept a List.mem_cons_self) hout⟩
        · have hne : b ≠ a := fun hba => hbm (hba ▸ ha)
          exact hmarks a ha (hK a (hm a (List.mem_cons_of_mem _ ha)) b hb d d₁ v hd hK₀ h₁ (.inl hne))
      · intro a ha hnot
        have hne : b ≠ a := fun hba => hnot (hba ▸ List.mem_cons_self)
        have hnot' : a ∉ m := fun ham => hnot (List.mem_cons_of_mem _ ham)
        exact ⟨fun hK₀ => (hrest a ha hnot').1 (hK a ha b hb d d₁ v hd hK₀ h₁ (.inl hne)),
          fun hD₀ => (hrest a ha hnot').2 (hDlast a ha b hb d d₁ v hd hD₀ h₁ hne)⟩
  obtain ⟨res₀, d₁, h₁, h₂⟩ := exec_bind_ok h
  simp only [exec_pure, Prod.mk.injEq, Except.ok.injEq] at h₂
  obtain ⟨rfl, rfl⟩ := h₂
  obtain ⟨hI', hres, -, hmarks, -⟩ := loop l [] d d₁ res₀ (fun _ hb => hb) hl (by simp) hd h₁
  refine ⟨hI', fun a ha => ?_, fun a ha hK₀ => ?_⟩
  · rcases hres a (List.mem_reverse.mp ha) with ha | ha
    · cases ha
    · exact ha
  · simpa using hmarks a ha hK₀


end Desk

namespace Store

/-- Marking a trade merged: the rows of its id are merged, the others stay as they were. -/
theorem markMerged_rows {s s' : Store} {now : Instant} {id primary reason : String}
    (h : s.markMerged now id primary reason = .ok s') :
    s'.closed = s.closed ∧ List.Forall₂ (fun r r' : Row => r'.trade.id = r.trade.id ∧
      r'.trade.traderId = r.trade.traderId ∧ (r.trade.id = id → r'.trade.status = .merged) ∧
      (r.trade.id ≠ id → r' = r)) s.rows s'.rows := by
  have hw := write_ok (guard_bind_ok h).1
  subst hw
  refine ⟨modify_closed _ _ _, forall₂_modify_of fun r _ => ?_⟩
  by_cases hid : r.trade.id = id
  · rw [if_pos hid]
    exact ⟨rfl, rfl, fun _ => rfl, fun hne => absurd hid hne⟩
  · rw [if_neg hid]
    exact ⟨rfl, rfl, fun h => absurd h hid, fun _ => rfl⟩

end Store

namespace Desk

/-- What a repair of trades `ts` that answers `ts'` leaves: the cached snapshots, no failure
staged for a write, every row with its id and trader and, outside the ids of `ts`, its liveness;
it answers trades of `ts`, and of those that were live, the ones it kept are live still and the
ones it left out are no longer. -/
structure Repaired (ts ts' : List Trade) (d d' : Desk) : Prop where
  snapshots : d'.snapshots = d.snapshots
  spares : d'.plan.sparesWrites
  rows : List.Forall₂ (fun r r' : Row => r'.trade.id = r.trade.id ∧
    r'.trade.traderId = r.trade.traderId ∧
    (r.trade.id ∉ ts.map (·.id) → r'.trade.status.live = r.trade.status.live))
    d.store.rows d'.store.rows
  sub : ∀ t ∈ ts', t ∈ ts
  kept : ∀ t ∈ ts, (∀ r ∈ d.store.rows, r.trade.id = t.id → r.trade.status.live = true) →
    t ∈ ts' → ∀ r ∈ d'.store.rows, r.trade.id = t.id → r.trade.status.live = true
  dropped : ∀ t ∈ ts, (∀ r ∈ d.store.rows, r.trade.id = t.id → r.trade.status.live = true) →
    t ∉ ts' → ∀ r ∈ d'.store.rows, r.trade.id = t.id → r.trade.status.live = false

/-- The loop of a repair: each test keeps its trade and changes nothing, or marks the trade's
rows merged and leaves it out. From a desk with an open store and no failure staged for a write,
over trades of distinct ids that all have rows, every row of a trade kept stays as it was, every
row of a trade left out is no longer live, the rows of other ids keep their status, and the
cached snapshots stay. -/
theorem repairLoop_spec (now : Instant) (why : String → String) {p : Trade → DeskM Bool}
    (hp : ∀ t, p t = pure true ∨ ∃ pid, p t = (ignoring (change .markMerged fun s =>
      s.markMerged now t.id pid (why pid)) >>= fun _ => pure false))
    {ts ts' : List Trade} {d d' : Desk} (hspares : d.plan.sparesWrites)
    (hopen : d.store.closed = false) (hnd : (ts.map (·.id)).Nodup)
    (hrows : ∀ t ∈ ts, ∃ r ∈ d.store.rows, r.trade.id = t.id)
    (h : exec (ts.filterM p) d = (.ok ts', d')) : Repaired ts ts' d d' := by
  let Rel : Row → Row → Prop := fun r r' => r'.trade.id = r.trade.id ∧
    r'.trade.traderId = r.trade.traderId ∧
    (r.trade.id ∉ ts.map (·.id) → r'.trade.status.live = r.trade.status.live)
  -- what the loop keeps along the way
  let I : Desk → Prop := fun e => e.snapshots = d.snapshots ∧ e.plan.sparesWrites ∧
    e.store.closed = false ∧ List.Forall₂ Rel d.store.rows e.store.rows
  have hne : ∀ a ∈ ts, ∀ b ∈ ts, b ≠ a → b.id ≠ a.id := fun a ha b hb hba hid =>
    hba (List.inj_on_of_nodup_map hnd hb ha hid)
  -- one test: nothing changes, or the rows of the trade's id are marked merged and no others
  have hstep : ∀ t ∈ ts, ∀ e e' v, I e → exec (p t) e = (.ok v, e') →
      (v = true ∧ e' = e) ∨ (v = false ∧ e'.snapshots = e.snapshots ∧ e'.plan.sparesWrites ∧
        e'.store.closed = e.store.closed ∧ List.Forall₂ (fun r r' : Row =>
          r'.trade.id = r.trade.id ∧ r'.trade.traderId = r.trade.traderId ∧
          (r.trade.id = t.id → r'.trade.status = .merged) ∧ (r.trade.id ≠ t.id → r' = r))
          e.store.rows e'.store.rows) := by
    intro t ht e e' v he hrun
    rcases hp t with hpt | ⟨pid, hpt⟩
    · rw [hpt, exec_pure] at hrun
      cases hrun
      exact .inl ⟨rfl, rfl⟩
    · obtain ⟨r₀, hr₀, hid₀⟩ := hrows t ht
      obtain ⟨r, hr, hrel⟩ := exists_of_forall₂_left he.2.2.2 hr₀
      obtain ⟨s', hs', hexec⟩ := exec_markMerged he.2.1 hr (hrel.1.trans hid₀) he.2.2.1 now pid (why pid)
      rw [hpt, exec_bind, exec_ignoring, hexec] at hrun
      simp only [exec_pure, Prod.mk.injEq] at hrun
      obtain ⟨hv, rfl⟩ := hrun
      obtain ⟨hclosed, hrows'⟩ := Store.markMerged_rows hs'
      exact .inr ⟨(Except.ok.inj hv).symm, rfl, FaultPlan.sparesWrites_trip he.2.1 _, hclosed, hrows'⟩
  have hI : ∀ b ∈ ts, ∀ e e' v, I e → exec (p b) e = (.ok v, e') → I e' := by
    intro b hb e e' v he hrun
    rcases hstep b hb e e' v he hrun with ⟨-, rfl⟩ | ⟨-, hsnap, hsp, hclosed, hrows'⟩
    · exact he
    · refine ⟨hsnap.trans he.1, hsp, hclosed.trans he.2.2.1, ?_⟩
      refine forall₂_trans (R := Rel) (fun r₁ r₂ r₃ h₁ h₂ => ⟨h₂.1.trans h₁.1, h₂.2.1.trans h₁.2.1,
        fun hout => (h₂.2.2 (by rw [h₁.1]; exact hout)).trans (h₁.2.2 hout)⟩) he.2.2.2 (hrows'.imp fun r r' hr => ?_)
      refine ⟨hr.1, hr.2.1, fun hout => ?_⟩
      have hid : r.trade.id ≠ b.id := fun hid => hout (List.mem_map.mpr ⟨b, hb, hid.symm⟩)
      rw [hr.2.2.2 hid]
  have hstart : I d := ⟨rfl, hspares, hopen, List.forall₂_same.mpr fun r _ => ⟨rfl, rfl, fun _ => rfl⟩⟩
  obtain ⟨⟨hsnap, hsp, -, hrel⟩, hsub, hmarks⟩ := filterM_marks (hnd.of_map _) I
    (fun t e => ∀ r ∈ e.store.rows, r.trade.id = t.id → r.trade.status.live = true)
    (fun t e => ∀ r ∈ e.store.rows, r.trade.id = t.id → r.trade.status.live = false) hI
    (fun a ha b hb e e' v he hK hrun hv => by
      rcases hstep b hb e e' v he hrun with ⟨-, rfl⟩ | ⟨rfl, -, -, -, hrows'⟩
      · exact hK
      · -- another trade was marked: the rows of this one stayed
        intro r' hr' hid
        obtain ⟨r, hr, hrr⟩ := exists_of_forall₂_right hrows' hr'
        have hba : b ≠ a := by simpa using hv
        rw [hrr.2.2.2 (by rw [← hrr.1, hid]; exact (hne a ha b hb hba).symm)]
        exact hK r hr (hrr.1 ▸ hid))
    (fun a ha e e' he hrun => by
      rcases hstep a ha e e' false he hrun with ⟨h, -⟩ | ⟨-, -, -, -, hrows'⟩
      · cases h
      · intro r' hr' hid
        obtain ⟨r, -, hrr⟩ := exists_of_forall₂_right hrows' hr'
        rw [hrr.2.2.1 (hrr.1 ▸ hid)]
        rfl)
    (fun a ha b hb e e' v he hD hrun hba => by
      rcases hstep b hb e e' v he hrun with ⟨-, rfl⟩ | ⟨-, -, -, -, hrows'⟩
      · exact hD
      · intro r' hr' hid
        obtain ⟨r, hr, hrr⟩ := exists_of_forall₂_right hrows' hr'
        rw [hrr.2.2.2 (by rw [← hrr.1, hid]; exact (hne a ha b hb hba).symm)]
        exact hD r hr (hrr.1 ▸ hid))
    hstart h
  exact ⟨hsnap, hsp, hrel, hsub, fun t ht hK => (hmarks t ht hK).1,
    fun t ht hK => (hmarks t ht hK).2⟩

/-- What a repair does: the repair loop's law, or nothing at all when no trade records an
absorbed one. -/
theorem repairMerges_spec {ts ts' : List Trade} {d d' : Desk} (hspares : d.plan.sparesWrites)
    (hopen : d.store.closed = false) (hnd : (ts.map (·.id)).Nodup)
    (hrows : ∀ t ∈ ts, ∃ r ∈ d.store.rows, r.trade.id = t.id)
    (h : exec (repairMerges ts) d = (.ok ts', d')) : Repaired ts ts' d d' := by
  unfold repairMerges at h
  dsimp only at h
  split at h
  · simp only [exec_pure, Prod.mk.injEq, Except.ok.injEq] at h
    obtain ⟨rfl, rfl⟩ := h
    exact ⟨rfl, hspares, List.forall₂_same.mpr fun r _ => ⟨rfl, rfl, fun _ => rfl⟩,
      fun _ ht => ht, fun _ _ hlive _ => hlive, fun _ ht _ hout => absurd ht hout⟩
  · obtain ⟨now, d₁, h₁, h₂⟩ := exec_bind_ok h
    simp only [exec_clock, Prod.mk.injEq, Except.ok.injEq] at h₁
    obtain ⟨rfl, rfl⟩ := h₁
    refine repairLoop_spec d.now (fun pid => "repaired: absorbed by " ++ pid) (fun t => ?_) hspares
      hopen hnd hrows h₂
    split
    · split
      · exact .inl rfl
      · exact .inr ⟨_, rfl⟩
    · exact .inl rfl


theorem filterM_answers {α : Type} {p : α → DeskM Bool} {l : List α}
    (hp : ∀ a ∈ l, ∀ d, ∃ v, (exec (p a) d).1 = .ok v) (d : Desk) :
    ∃ res, (exec (l.filterM p) d).1 = .ok res := by
  have loop : ∀ (m acc : List α) (d : Desk), (∀ a ∈ m, a ∈ l) →
      ∃ res, (exec (List.filterAuxM p m acc) d).1 = .ok res := by
    intro m
    induction m with
    | nil => exact fun acc d _ => ⟨acc, rfl⟩
    | cons a m ih =>
      intro acc d hm
      obtain ⟨v, hv⟩ := hp a (hm a List.mem_cons_self) d
      rw [List.filterAuxM, exec_bind]
      rcases hx : exec (p a) d with ⟨_ | v', d₁⟩
      · rw [hx] at hv
        cases hv
      · exact ih _ d₁ fun b hb => hm b (List.mem_cons_of_mem _ hb)
  obtain ⟨res, hres⟩ := loop l [] d fun _ h => h
  rw [List.filterM, exec_bind]
  rcases hx : exec (List.filterAuxM p l []) d with ⟨_ | res', d₁⟩
  · rw [hx] at hres
    cases hres
  · exact ⟨_, rfl⟩

/-- A repair always answers: its marks are only noted when they fail, and they never stop. -/
theorem repairMerges_answers (ts : List Trade) (d : Desk) :
    ∃ ts', (exec (repairMerges ts) d).1 = .ok ts' := by
  unfold repairMerges
  dsimp only
  split
  · exact ⟨ts, rfl⟩
  · rw [exec_bind, exec_clock]
    refine filterM_answers (fun t _ e => ?_) d
    split
    · split
      · exact ⟨true, rfl⟩
      · rw [exec_bind, exec_ignoring_of_calm (calm_change (Store.markMerged_calm _ _ _ _))]
        exact ⟨false, rfl⟩
    · exact ⟨true, rfl⟩

end Desk

theorem Store.live_nodup {s : Store} {trader : String} {ts : List Trade}
    (hnd : (s.rows.map (·.trade.id)).Nodup) (h : s.live trader = .ok ts) : (ts.map (·.id)).Nodup := by
  unfold live at h
  split at h
  · cases h
  · rcases hg : s.guard "query live trades: " with _ | ⟨⟩
    · simp [hg, bind, Except.bind] at h
    · simp only [hg, bind, Except.bind] at h
      rw [scanAll_ok h, List.map_map]
      refine (((stableSort_perm _ _).map _).nodup_iff).mpr ?_
      exact hnd.sublist (List.filter_sublist.map _)


namespace Desk

variable {T : String}

/-- A row of another trader holds none of the ids of `T`'s live trades. -/
theorem live_ids_of_other {s : Store} {ts : List Trade} (hlive : s.live T = .ok ts)
    (hnd : (s.rows.map (·.trade.id)).Nodup) {r : Row} (hr : r ∈ s.rows)
    (htr : r.trade.traderId ≠ T) : r.trade.id ∉ ts.map (·.id) := by
  intro hin
  obtain ⟨t, ht, hid⟩ := List.mem_map.mp hin
  obtain ⟨r', hr', rfl, htr', -⟩ := (Store.mem_live hlive).mp ht
  exact htr (List.inj_on_of_nodup_map hnd hr hr' hid.symm ▸ htr')

/-- A repair of `T`'s live trades leaves every other trader as it was. -/
theorem Repaired.leaves {ts ts' : List Trade} {d d' : Desk} (h : Repaired ts ts' d d')
    (hlive : d.store.live T = .ok ts) (hnd : (d.store.rows.map (·.trade.id)).Nodup) :
    List.Forall₂ (Row.Leaves (· ≠ T)) d.store.rows d'.store.rows :=
  forall₂_imp_of_mem h.rows fun _ hr _ hrr =>
    ⟨hrr.1, hrr.2.1, fun hk => hrr.2.2 (live_ids_of_other hlive hnd hr hk)⟩

/-- The snapshot of the trades a repair of `T`'s live trades kept shows exactly the live trades
of `T` it leaves: a kept trade is live still, a trade left out is not, and a row outside the
repair kept its status, so a live one was read and repaired. -/
theorem Repaired.agrees {ts ts' : List Trade} {d d' : Desk} (h : Repaired ts ts' d d')
    (hlive : d.store.live T = .ok ts) (hnd : (d.store.rows.map (·.trade.id)).Nodup) :
    (Snapshot.ofTrades ts').Agrees T d'.store.rows := by
  -- each trade read is the trade of a live row of `T`, the only row of its id
  have hK : ∀ t ∈ ts, ∀ r ∈ d.store.rows, r.trade.id = t.id → r.trade.status.live = true := by
    intro t ht r hr hid
    obtain ⟨r', hr', rfl, -, hl⟩ := (Store.mem_live hlive).mp ht
    rw [List.inj_on_of_nodup_map hnd hr hr' hid]
    exact hl
  intro id
  rw [Snapshot.shows_ofTrades]
  constructor
  · rintro ⟨t, ht, rfl⟩
    obtain ⟨r, hr, rfl, htr, -⟩ := (Store.mem_live hlive).mp (h.sub t ht)
    obtain ⟨r₂, hr₂, hrr⟩ := exists_of_forall₂_left h.rows hr
    exact ⟨r₂, hr₂, hrr.1, hrr.2.1.trans htr, h.kept _ (h.sub _ ht) (hK _ (h.sub _ ht)) ht r₂ hr₂ hrr.1⟩
  · rintro ⟨r₂, hr₂, rfl, htr, hl⟩
    obtain ⟨r, hr, hrr⟩ := exists_of_forall₂_right h.rows hr₂
    by_cases hin : r.trade.id ∈ ts.map (·.id)
    · obtain ⟨t, ht, htid⟩ := List.mem_map.mp hin
      by_cases hkept : t ∈ ts'
      · exact ⟨t, hkept, htid.trans hrr.1.symm⟩
      · have hdead := h.dropped t ht (hK t ht) hkept r₂ hr₂ (hrr.1.trans htid.symm)
        rw [hl] at hdead
        cases hdead
    · -- a row outside the repair kept its status, so it was read as live
      have hlive₀ : r.trade.status.live = true := (hrr.2.2 hin).symm.trans hl
      have hread : r.trade ∈ ts :=
        (Store.mem_live hlive).mpr ⟨r, hr, rfl, hrr.2.1 ▸ htr, hlive₀⟩
      exact absurd (List.mem_map.mpr ⟨r.trade, hread, rfl⟩) hin

/-- Loading a trader's snapshot, when none is cached: it leaves every other trader as it was,
and the snapshot it caches and answers agrees with every row of the store it leaves; a load that
fails caches nothing. -/
theorem snapshot_load {d d' : Desk} {r : Except Fault Snapshot}
    (hnone : d.snapshots.lookup T = none) (hnd : (d.store.rows.map (·.trade.id)).Nodup)
    (hsp : d.plan.sparesWrites) (h : exec (snapshot T) d = (r, d')) :
    Leaves (· ≠ T) d d' ∧ ((d'.snapshots.lookup T = none ∧ ∀ S, r ≠ .ok S) ∨
      ∃ S, r = .ok S ∧ d'.snapshots.lookup T = some S ∧ S.Agrees T d'.store.rows) := by
  unfold snapshot at h
  rw [exec_bind, exec_get] at h
  simp only [hnone] at h
  rw [exec_bind, exec_within, exec_read] at h
  rcases htrip : (d.plan.trip .listLive).2 with _ | e
  · rcases hlive : d.store.live T with e | ts
    · simp only [htrip, hlive] at h
      obtain ⟨rfl, rfl⟩ := Prod.mk.inj h
      exact ⟨Leaves.frame.trip d _, .inl ⟨hnone, fun S h => by cases h⟩⟩
    · simp only [htrip, hlive] at h
      rw [exec_bind] at h
      generalize hd₁ : ({ d with plan := (d.plan.trip .listLive).1 } : Desk) = d₁ at h
      have hstore : d₁.store = d.store := by rw [← hd₁]
      -- the repair always answers, over the trader's live trades, of distinct ids
      obtain ⟨ts', hts'⟩ := repairMerges_answers ts d₁
      rcases hrep : exec (repairMerges ts) d₁ with ⟨_ | ts'', d₂⟩
      · rw [hrep] at hts'
        cases hts'
      rw [hrep] at h
      simp only [exec_bind, exec_modify, exec_pure] at h
      obtain ⟨rfl, rfl⟩ := Prod.mk.inj h
      have hrepaired := repairMerges_spec (d := d₁)
        (by rw [← hd₁]; exact FaultPlan.sparesWrites_trip hsp _)
        (by rw [hstore]; exact Store.live_open hlive) (Store.live_nodup hnd hlive)
        (fun t ht => by
          obtain ⟨r, hr, rfl, -⟩ := (Store.mem_live hlive).mp ht
          exact ⟨r, hstore ▸ hr, rfl⟩) hrep
      rw [← hstore] at hlive hnd
      have hsnap₂ : d₂.snapshots = d.snapshots := by rw [hrepaired.snapshots, ← hd₁]
      refine ⟨⟨hstore ▸ hrepaired.leaves hlive hnd, fun k hk => .inl ?_, fun _ => hrepaired.spares⟩,
        .inr ⟨_, rfl, by simp, hrepaired.agrees hlive hnd⟩⟩
      -- another trader's snapshot stays where it was
      change ((T, Snapshot.ofTrades ts'') :: d₂.snapshots.filter (·.1 != T)).lookup k = _
      rw [List.lookup_cons]
      split
      · rename_i hkey
        exact absurd (beq_iff_eq.mp hkey) hk
      · rw [List.lookup_filter_ne, if_neg hk, hsnap₂]
  · simp only [htrip] at h
    obtain ⟨rfl, rfl⟩ := Prod.mk.inj h
    exact ⟨Leaves.frame.trip d _, .inl ⟨hnone, fun S h => by cases h⟩⟩

section Read

variable {T : String} {xs : List String}

theorem exec_snapshot_cached {d : Desk} {S : Snapshot} (hS : d.snapshots.lookup T = some S) :
    exec (snapshot T) d = (.ok S, d) := by
  unfold snapshot
  rw [exec_bind, exec_get]
  simp only [hS, exec_pure]

theorem keeps_snapshot_safe : Keeps (Safe T xs) (snapshot T) := by
  intro d h hown
  rcases hS : d.snapshots.lookup T with _ | S
  · rcases hx : exec (snapshot T) d with ⟨r, d'⟩
    obtain ⟨hl, hcache⟩ := snapshot_load hS h.nodup h.spares hx
    have hT : FreshOutside [T] d' :=
      (h.mono fun _ h => by cases h).of_leaves (hl.mono fun k hk => by simpa using hk)
    refine ⟨⟨hT.nodup, hT.spares, fun k S' _ hk => ?_⟩, hown.of_leaves hl.rows⟩
    by_cases hkT : k = T
    · -- the trader's own snapshot is the one just loaded, or none
      subst hkT
      rcases hcache with ⟨hnone, -⟩ | ⟨S'', -, hsome, hagree⟩
      · rw [hnone] at hk
        cases hk
      · rw [hsome] at hk
        cases hk
        exact ⟨_, by rwa [List.take_length]⟩
    · exact hT.fresh k S' (by simpa using hkT) hk
  · rw [exec_snapshot_cached hS]
    exact ⟨h, hown⟩

/-- What a snapshot read answers, from a desk where every cached snapshot is fresh: a fresh
snapshot, and when none was cached, one that agrees with every row of the store. -/
theorem snapshot_read {d d' : Desk} {S : Snapshot} (h : FreshOutside [] d)
    (hread : exec (snapshot T) d = (.ok S, d')) :
    S.Fresh T d'.store ∧ (d.snapshots.lookup T = none → S.Agrees T d'.store.rows) := by
  rcases hS : d.snapshots.lookup T with _ | S₀
  · obtain ⟨-, hcache⟩ := snapshot_load hS h.nodup h.spares hread
    rcases hcache with ⟨-, hnot⟩ | ⟨S', hS', -, hagree⟩
    · exact absurd rfl (hnot S)
    · cases hS'
      exact ⟨⟨_, by rwa [List.take_length]⟩, fun _ => hagree⟩
  · rw [exec_snapshot_cached hS] at hread
    cases hread
    exact ⟨h.fresh T S (by simp) hS, fun h => by cases h⟩

end Read

end Desk

end TradeLedger
