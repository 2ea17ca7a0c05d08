import TradeLedger.Proofs.Position.OneLive
/-!
# Cached snapshots that agree with the store

A trader's snapshot is loaded from the store once and cached. A write that makes a trade live or
ends it must drop its trader's snapshot before the next read, or that read decides on trades no
longer live, or misses one that now is. A step rewriting rows of one trader `T` keeps the
invariant only with `T` dirty, and dropping `T`'s snapshot clears `T`. Every relation here is a
`Desk.Frame`; what remains per step is each store write's effect on the rows and, where failures
are caught, that a store failure never stops outright, so the drop after a write is reached.

## Main definitions

* `Snapshot.Fresh`: the trader's live trades among the rows stored when it was loaded.
* `Desk.FreshOutside`: every cached snapshot of a trader outside `dirty` is fresh.
* `Desk.Stale`, `Desk.Heals`, `Desk.Safe`, `Desk.Quiet`, `Desk.Calm`: what a step does to it.

## Theorems

* `Store.leaves_markStatus`, `Store.leaves_updateFill`: what each write leaves.
* `Desk.keeps_stale_bind_safe`: a write followed by a drop on every way out is safe.
-/


namespace TradeLedger

/-- A snapshot shows a trade id when one of its groups holds a trade with that id. -/
def Snapshot.Shows (S : Snapshot) (id : String) : Prop := ∃ key, ∃ t ∈ S.group key, t.id = id

theorem Snapshot.shows_ofTrades {ts : List Trade} {id : String} :
    (Snapshot.ofTrades ts).Shows id ↔ ∃ t ∈ ts, t.id = id := by
  constructor
  · rintro ⟨key, t, ht, rfl⟩
    rw [Snapshot.group_ofTrades] at ht
    exact ⟨t, (List.mem_filter.mp ht).1, rfl⟩
  · rintro ⟨t, ht, rfl⟩
    exact ⟨_, t, Snapshot.mem_group_ofTrades ht, rfl⟩

/-- A row holds a live trade of `trader`. -/
def Row.LiveOf (trader : String) (r : Row) : Prop :=
  r.trade.traderId = trader ∧ r.trade.status.live = true

/-- A snapshot of `trader` agrees with a list of rows: it shows an id exactly when one of the
rows holds a live trade of the trader with that id. -/
def Snapshot.Agrees (S : Snapshot) (trader : String) (rows : List Row) : Prop :=
  ∀ id, S.Shows id ↔ ∃ r ∈ rows, r.trade.id = id ∧ r.LiveOf trader

/-- A cached snapshot of `trader` is fresh in a store when it agrees with the rows that were
stored when it was loaded. Rows are only ever added after the others, so those rows are the
first ones of the store now. -/
def Snapshot.Fresh (S : Snapshot) (trader : String) (s : Store) : Prop :=
  ∃ n, S.Agrees trader (s.rows.take n)

/-- Every row with id `id` holds a trade of `trader`. -/
def Store.Owns (s : Store) (trader id : String) : Prop :=
  ∀ r ∈ s.rows, r.trade.id = id → r.trade.traderId = trader

theorem exists_of_forall₂_left {α β : Type} {R : α → β → Prop} {l₁ : List α}
    {l₂ : List β} (h : List.Forall₂ R l₁ l₂) {a : α} (ha : a ∈ l₁) : ∃ b ∈ l₂, R a b := by
  induction h with
  | nil => cases ha
  | cons hab _ ih =>
    rcases List.mem_cons.mp ha with rfl | ha
    · exact ⟨_, List.mem_cons_self, hab⟩
    · obtain ⟨b, hb, hr⟩ := ih ha
      exact ⟨b, List.mem_cons_of_mem _ hb, hr⟩

theorem exists_of_forall₂_right {α β : Type} {R : α → β → Prop} {l₁ : List α}
    {l₂ : List β} (h : List.Forall₂ R l₁ l₂) {b : β} (hb : b ∈ l₂) : ∃ a ∈ l₁, R a b := by
  induction h with
  | nil => cases hb
  | cons hab _ ih =>
    rcases List.mem_cons.mp hb with rfl | hb
    · exact ⟨_, List.mem_cons_self, hab⟩
    · obtain ⟨a, ha, hr⟩ := ih hb
      exact ⟨a, List.mem_cons_of_mem _ ha, hr⟩

theorem forall₂_imp_of_mem {α β : Type} {R S : α → β → Prop} {l₁ : List α} {l₂ : List β}
    (h : List.Forall₂ R l₁ l₂) (hS : ∀ a ∈ l₁, ∀ b, R a b → S a b) : List.Forall₂ S l₁ l₂ := by
  induction h with
  | nil => exact .nil
  | cons hab _ ih =>
    exact .cons (hS _ List.mem_cons_self _ hab)
      (ih fun a ha b hr => hS a (List.mem_cons_of_mem _ ha) b hr)

/-- Row `r'` is a later state of row `r` that leaves the traders `keep` selects as they were:
the same trade of the same trader, live as before when the trader is one of them. -/
structure Row.Leaves (keep : String → Prop) (r r' : Row) : Prop where
  id : r'.trade.id = r.trade.id
  trader : r'.trade.traderId = r.trade.traderId
  live : keep r.trade.traderId → r'.trade.status.live = r.trade.status.live

namespace Row.Leaves

variable {keep : String → Prop}

@[refl] theorem refl (r : Row) : Row.Leaves keep r r := ⟨rfl, rfl, fun _ => rfl⟩

theorem trans {r₁ r₂ r₃ : Row} (h₁ : Row.Leaves keep r₁ r₂) (h₂ : Row.Leaves keep r₂ r₃) :
    Row.Leaves keep r₁ r₃ :=
  ⟨h₂.id.trans h₁.id, h₂.trader.trans h₁.trader,
    fun hk => (h₂.live (h₁.trader ▸ hk)).trans (h₁.live hk)⟩

theorem mono {keep' : String → Prop} (hk : ∀ k, keep' k → keep k) {r r' : Row}
    (h : Row.Leaves keep r r') : Row.Leaves keep' r r' :=
  ⟨h.id, h.trader, fun h' => h.live (hk _ h')⟩

theorem liveOf {r r' : Row} (h : Row.Leaves keep r r') {k : String} (hk : keep k) :
    r'.LiveOf k ↔ r.LiveOf k := by
  unfold LiveOf
  rw [h.trader]
  constructor
  · rintro ⟨rfl, hl⟩
    exact ⟨rfl, (h.live hk).symm.trans hl⟩
  · rintro ⟨rfl, hl⟩
    exact ⟨rfl, (h.live hk).trans hl⟩

end Row.Leaves

/-- A snapshot that agrees with rows agrees with their later states, when these leave its
trader as it was. -/
theorem Snapshot.Agrees.of_leaves {keep : String → Prop} {S : Snapshot} {trader : String}
    (hk : keep trader) {rows rows' : List Row} (hrows : List.Forall₂ (Row.Leaves keep) rows rows')
    (h : S.Agrees trader rows) : S.Agrees trader rows' := by
  intro id
  rw [h id]
  constructor
  · rintro ⟨r, hr, hid, hlive⟩
    obtain ⟨r', hr', hrel⟩ := exists_of_forall₂_left hrows hr
    exact ⟨r', hr', hrel.id.trans hid, (hrel.liveOf hk).mpr hlive⟩
  · rintro ⟨r', hr', hid, hlive⟩
    obtain ⟨r, hr, hrel⟩ := exists_of_forall₂_right hrows hr'
    exact ⟨r, hr, hrel.id.symm.trans hid, (hrel.liveOf hk).mp hlive⟩

theorem Store.Owns.of_leaves {keep : String → Prop} {s s' : Store} {trader id : String}
    (hrows : List.Forall₂ (Row.Leaves keep) s.rows s'.rows) (h : s.Owns trader id) :
    s'.Owns trader id := by
  intro r' hr' hid
  obtain ⟨r, hr, hrel⟩ := exists_of_forall₂_right hrows hr'
  rw [hrel.trader]
  exact h r hr (hrel.id.symm.trans hid)

theorem ids_eq_of_leaves {keep : String → Prop} {rows rows' : List Row}
    (h : List.Forall₂ (Row.Leaves keep) rows rows') :
    rows'.map (·.trade.id) = rows.map (·.trade.id) := by
  induction h with
  | nil => rfl
  | cons hab _ ih => rw [List.map_cons, List.map_cons, ih, hab.id]

namespace Desk

/-- Every cached snapshot of a trader outside `dirty` is fresh. Besides, the rows have distinct
ids and no failure is staged for a store write. -/
structure FreshOutside (dirty : List String) (d : Desk) : Prop where
  nodup : (d.store.rows.map (·.trade.id)).Nodup
  spares : d.plan.sparesWrites
  fresh : ∀ trader S, trader ∉ dirty → d.snapshots.lookup trader = some S →
    S.Fresh trader d.store

/-- Desk `d'` leaves the traders `keep` selects as `d` had them: its rows are those of `d`, each
leaving those traders as they were, their cached snapshots are kept or dropped, and no failure
comes to be staged for a store write. -/
structure Leaves (keep : String → Prop) (d d' : Desk) : Prop where
  rows : List.Forall₂ (Row.Leaves keep) d.store.rows d'.store.rows
  snapshots : ∀ k, keep k →
    d'.snapshots.lookup k = d.snapshots.lookup k ∨ d'.snapshots.lookup k = none
  spares : d.plan.sparesWrites → d'.plan.sparesWrites

namespace Leaves

variable {keep : String → Prop}

theorem mono {keep' : String → Prop} (hk : ∀ k, keep' k → keep k) {d d' : Desk}
    (h : Leaves keep d d') : Leaves keep' d d' :=
  ⟨h.rows.imp fun _ _ hr => hr.mono hk, fun k hk' => h.snapshots k (hk k hk'), h.spares⟩

/-- A step that keeps the rows and the cached snapshots leaves every trader as it was. -/
theorem of_same {d d' : Desk} (hrows : d'.store.rows = d.store.rows)
    (hsnap : d'.snapshots = d.snapshots) (hspares : d.plan.sparesWrites → d'.plan.sparesWrites) :
    Leaves keep d d' :=
  ⟨hrows ▸ List.forall₂_same.mpr fun r _ => Row.Leaves.refl r, fun _ _ => .inl (by rw [hsnap]),
    hspares⟩

/-- A change of the store alone leaves the traders whose rows it leaves. -/
theorem of_store {d : Desk} {s : Store} (h : List.Forall₂ (Row.Leaves keep) d.store.rows s.rows) :
    Leaves keep d { d with store := s } :=
  ⟨h, fun _ _ => .inl rfl, fun h => h⟩

theorem frame : Frame (Leaves keep) where
  refl _ := of_same rfl rfl id
  trans h₁ h₂ := by
    refine ⟨forall₂_trans (R := Row.Leaves keep) (fun _ _ _ => Row.Leaves.trans) h₁.rows h₂.rows,
      fun k hk => ?_, fun h => h₂.spares (h₁.spares h)⟩
    rcases h₂.snapshots k hk with h | h
    · rw [h]
      exact h₁.snapshots k hk
    · exact .inr h
  metrics _ _ := of_same rfl rfl id
  cooldowns _ _ := of_same rfl rfl id
  trip _ m := of_same rfl rfl fun h => FaultPlan.sparesWrites_trip h m
  drop d trader := by
    refine ⟨List.forall₂_same.mpr fun r _ => Row.Leaves.refl r, fun k _ => ?_, fun h => h⟩
    -- dropping a snapshot filters the cache, which keeps or loses each other entry
    change (d.snapshots.filter (·.1 != trader)).lookup k = d.snapshots.lookup k ∨
      (d.snapshots.filter (·.1 != trader)).lookup k = none
    rw [List.lookup_filter_ne]
    split
    · exact .inr rfl
    · exact .inl rfl

end Leaves

/-- What leaves the traders outside `dirty` as they were keeps their snapshots fresh. -/
theorem FreshOutside.of_leaves {dirty : List String} {d d' : Desk} (h : FreshOutside dirty d)
    (hl : Leaves (· ∉ dirty) d d') : FreshOutside dirty d' where
  nodup := by
    rw [ids_eq_of_leaves hl.rows]
    exact h.nodup
  spares := hl.spares h.spares
  fresh trader S hk hS := by
    rcases hl.snapshots trader hk with hsame | hnone
    · obtain ⟨n, hn⟩ := h.fresh trader S hk (hsame ▸ hS)
      exact ⟨n, hn.of_leaves hk (List.forall₂_take n hl.rows)⟩
    · rw [hnone] at hS
      cases hS

/-- Dropping a trader's snapshot clears it from the dirty ones. -/
theorem FreshOutside.drop {trader : String} {dirty : List String} {d : Desk}
    (h : FreshOutside (trader :: dirty) d) : FreshOutside dirty (d.drop trader) where
  nodup := h.nodup
  spares := h.spares
  fresh k S hk hS := by
    change (d.snapshots.filter (·.1 != trader)).lookup k = some S at hS
    rw [List.lookup_filter_ne] at hS
    split at hS
    · cases hS
    · rename_i hne
      exact h.fresh k S (by simp [hne, hk]) hS

theorem FreshOutside.mono {dirty dirty' : List String} (hsub : ∀ k ∈ dirty, k ∈ dirty')
    {d : Desk} (h : FreshOutside dirty d) : FreshOutside dirty' d :=
  ⟨h.nodup, h.spares, fun k S hk hS => h.fresh k S (fun hk' => hk (hsub k hk')) hS⟩


end Desk

/-- Every row with one of the ids `xs` holds a trade of `trader`. -/
def Store.OwnsAll (s : Store) (trader : String) (xs : List String) : Prop :=
  ∀ x ∈ xs, s.Owns trader x

theorem Store.OwnsAll.of_leaves {keep : String → Prop} {s s' : Store} {trader : String}
    {xs : List String} (hrows : List.Forall₂ (Row.Leaves keep) s.rows s'.rows)
    (h : s.OwnsAll trader xs) : s'.OwnsAll trader xs :=
  fun x hx => (h x hx).of_leaves hrows

namespace Desk

/-- A step that leaves every trader as it was. -/
def Quiet (d d' : Desk) : Prop := Leaves (fun _ => True) d d'

theorem quiet_frame : Frame Quiet := Leaves.frame

section Steps

variable (T : String) (xs : List String)

/-- A step that may leave trader `T`'s snapshot stale: from a desk where the snapshot of every
other trader is fresh and the ids `xs` are `T`'s, it leaves every other trader as it was. -/
def Stale (d d' : Desk) : Prop :=
  FreshOutside [T] d → d.store.OwnsAll T xs → Leaves (· ≠ T) d d'

/-- A step that keeps every cached snapshot fresh, from a desk where the ids `xs` are `T`'s. -/
def Safe (d d' : Desk) : Prop :=
  FreshOutside [] d → d.store.OwnsAll T xs → FreshOutside [] d' ∧ d'.store.OwnsAll T xs

/-- A step that mends what stale steps did: from a desk where only `T`'s snapshot may be stale,
it ends where every snapshot is fresh. -/
def Heals (d d' : Desk) : Prop :=
  FreshOutside [T] d → d.store.OwnsAll T xs → FreshOutside [] d' ∧ d'.store.OwnsAll T xs

variable {T xs} {d d' : Desk}

theorem FreshOutside.of_stale (h : FreshOutside [T] d) (hown : d.store.OwnsAll T xs)
    (hs : Stale T xs d d') : FreshOutside [T] d' ∧ d'.store.OwnsAll T xs := by
  have hl := hs h hown
  exact ⟨h.of_leaves (hl.mono fun k hk => by simpa using hk), hown.of_leaves hl.rows⟩

theorem stale_frame : Frame (Stale T xs) where
  refl d _ _ := Leaves.frame.refl d
  trans h₁ h₂ h hown := by
    obtain ⟨h', hown'⟩ := h.of_stale hown h₁
    exact Leaves.frame.trans (h₁ h hown) (h₂ h' hown')
  metrics d m _ _ := Leaves.frame.metrics d m
  cooldowns d c _ _ := Leaves.frame.cooldowns d c
  trip d m _ _ := Leaves.frame.trip d m
  drop d trader _ _ := Leaves.frame.drop d trader

theorem safe_frame : Frame (Safe T xs) where
  refl _ h hown := ⟨h, hown⟩
  trans h₁ h₂ h hown := by
    obtain ⟨h', hown'⟩ := h₁ h hown
    exact h₂ h' hown'
  metrics d m h hown := ⟨h.of_leaves (Leaves.frame.metrics d m), hown⟩
  cooldowns d c h hown := ⟨h.of_leaves (Leaves.frame.cooldowns d c), hown⟩
  trip d m h hown := ⟨h.of_leaves (Leaves.frame.trip d m), hown⟩
  drop d trader h hown := ⟨h.of_leaves (Leaves.frame.drop d trader), hown⟩

theorem Quiet.stale (h : Quiet d d') : Stale T xs d d' :=
  fun _ _ => h.mono fun _ _ => trivial

theorem Quiet.safe (h : Quiet d d') : Safe T xs d d' :=
  fun hf hown => ⟨hf.of_leaves (h.mono fun _ _ => trivial), hown.of_leaves h.rows⟩

theorem Keeps.stale_of_quiet {α : Type} {x : DeskM α} (hx : Keeps Quiet x) : Keeps (Stale T xs) x :=
  fun d => (hx d).stale

theorem Keeps.safe_of_quiet {α : Type} {x : DeskM α} (hx : Keeps Quiet x) : Keeps (Safe T xs) x :=
  fun d => (hx d).safe

theorem keeps_invalidate_heals : Keeps (Heals T xs) (invalidate T) := by
  intro d h hown
  rw [exec_invalidate]
  exact ⟨h.drop, hown⟩

variable {α β : Type} {x : DeskM α} {f : α → DeskM β}

theorem keeps_heals_bind (hx : Keeps (Heals T xs) x) (hf : ∀ a, Keeps (Safe T xs) (f a)) :
    Keeps (Heals T xs) (x >>= f) := by
  intro d h hown
  rw [exec_bind]
  rcases hd : exec x d with ⟨_ | a, d₁⟩
  · simpa [hd] using hx d h hown
  · obtain ⟨h₁, hown₁⟩ := by simpa [hd] using hx d h hown
    exact hf a d₁ h₁ hown₁

/-- A step that may leave `T` stale, then mending, mends; a failure of the first step must mend
on its own. -/
theorem keeps_stale_bind_heals (hx : Keeps (Stale T xs) x)
    (herr : ∀ d e d', exec x d = (.error e, d') → Heals T xs d d')
    (hf : ∀ a, Keeps (Heals T xs) (f a)) : Keeps (Heals T xs) (x >>= f) := by
  intro d h hown
  rw [exec_bind]
  rcases hd : exec x d with ⟨_ | a, d₁⟩
  · exact herr d _ d₁ hd h hown
  · obtain ⟨h₁, hown₁⟩ := h.of_stale hown (by simpa [hd] using hx d)
    exact hf a d₁ h₁ hown₁

/-- A step that may leave `T` stale, then mending, keeps every snapshot fresh; a failure of the
first step must keep them fresh on its own. -/
theorem keeps_stale_bind_safe (hx : Keeps (Stale T xs) x)
    (herr : ∀ d e d', exec x d = (.error e, d') → Safe T xs d d')
    (hf : ∀ a, Keeps (Heals T xs) (f a)) : Keeps (Safe T xs) (x >>= f) := by
  intro d h hown
  rw [exec_bind]
  rcases hd : exec x d with ⟨_ | a, d₁⟩
  · exact herr d _ d₁ hd h hown
  · obtain ⟨h₁, hown₁⟩ := (h.mono fun _ h => by cases h).of_stale hown (by simpa [hd] using hx d)
    exact hf a d₁ h₁ hown₁

end Steps


/-! ### Failures that do not stop outright -/

/-- A step that fails, if at all, with a failure that does not stop outright, so a caller that
catches failures always goes on. -/
def Calm {α : Type} (x : DeskM α) : Prop := ∀ d e d', exec x d = (.error e, d') → e.kind ≠ .panic

/-- A store operation that fails, if at all, with a failure that does not stop outright. -/
def CalmOp {α : Type} (op : Store → Except Fault α) : Prop := ∀ s e, op s = .error e → e.kind ≠ .panic

theorem trip_calm {p : FaultPlan} {m : StoreMethod} {e : Fault} (h : (p.trip m).2 = some e) :
    e.kind ≠ .panic := by
  unfold FaultPlan.trip at h
  split at h
  · cases h
  · dsimp only at h
    split at h
    · cases h
      unfold StagedFailure.fault
      split <;> simp [Store.staleWrite, Store.notFound, Fault.plain]
    · cases h

theorem calm_read {α : Type} {m : StoreMethod} {op : Store → Except Fault α} (hop : CalmOp op) :
    Calm (read m op) := by
  intro d e d' h
  rw [exec_read] at h
  revert h
  rcases ht : (d.plan.trip m).2 with _ | e'
  · rcases hs : op d.store with e'' | a
    · intro h
      cases h
      exact hop _ _ hs
    · intro h
      cases h
  · intro h
    cases h
    exact trip_calm ht

theorem calm_write {α : Type} {m : StoreMethod} {op : Store → Except Fault (α × Store)}
    (hop : CalmOp op) : Calm (write m op) := by
  intro d e d' h
  rw [exec_write] at h
  revert h
  rcases ht : (d.plan.trip m).2 with _ | e'
  · rcases hs : op d.store with e'' | a
    · intro h
      cases h
      exact hop _ _ hs
    · intro h
      cases h
  · intro h
    cases h
    exact trip_calm ht

theorem calm_change {m : StoreMethod} {op : Store → Except Fault Store} (hop : CalmOp op) :
    Calm (change m op) :=
  calm_write fun s e h => by
    rcases hs : op s with e' | s'
    · rw [hs] at h
      cases h
      exact hop s _ hs
    · rw [hs] at h
      cases h

theorem exec_attempt_of_calm {α : Type} {x : DeskM α} (hx : Calm x) (d : Desk) :
    ∃ r, exec (attempt x) d = (.ok r, (exec x d).2) := by
  rw [exec_attempt]
  rcases hd : exec x d with ⟨_ | a, d'⟩
  · dsimp only
    rw [if_neg (by simpa using hx d _ d' hd)]
    exact ⟨_, rfl⟩
  · exact ⟨_, rfl⟩

theorem exec_ignoring_of_calm {x : DeskM Unit} (hx : Calm x) (d : Desk) :
    exec (ignoring x) d = (.ok (), (exec x d).2) := by
  rw [exec_ignoring]
  rcases hd : exec x d with ⟨_ | a, d'⟩
  · dsimp only
    rw [if_neg (by simpa using hx d _ d' hd)]
  · rfl

end Desk

namespace Store

theorem guard_calm (s : Store) (context : String) : ∀ e, s.guard context = .error e → e.kind ≠ .panic := by
  intro e h
  unfold guard at h
  split at h
  · cases h
    simp [Fault.plain]
  · cases h

theorem write_calm (s : Store) (id : String) (now : Instant) (f : Trade → Trade) :
    ∀ e, s.write id now f = .error e → e.kind ≠ .panic := by
  intro e h
  unfold write at h
  split at h
  · cases h
  · cases h
    simp [missingRow, notFound, Fault.wrap]

theorem requireNumbers_calm (context : String) (cols : List (String × Float)) :
    ∀ e, requireNumbers context cols = .error e → e.kind ≠ .panic := by
  intro e h
  unfold requireNumbers at h
  split at h
  · cases h
    simp [Fault.plain]
  · cases h

/-- A store call made of two calm steps is calm. -/
theorem bind_calm {β γ : Type} {x : Except Fault β} {f : β → Except Fault γ}
    (hx : ∀ e, x = .error e → e.kind ≠ .panic) (hf : ∀ b e, f b = .error e → e.kind ≠ .panic) :
    ∀ e, (x >>= f) = .error e → e.kind ≠ .panic := by
  intro e h
  rcases hx' : x with e' | b
  · rw [hx'] at h
    cases h
    exact hx _ hx'
  · rw [hx'] at h
    exact hf b e h

theorem guard_bind_calm {β : Type} {s : Store} {context : String} {x : Except Fault β}
    (hx : ∀ e, x = .error e → e.kind ≠ .panic) :
    ∀ e, (s.guard context >>= fun _ => x) = .error e → e.kind ≠ .panic :=
  bind_calm (guard_calm s context) fun _ => hx

/-- A write's check of its float columns, followed by its answer, is calm. -/
theorem requireNumbers_pure_calm {β : Type} {context : String} {cols : List (String × Float)}
    {b : β} : ∀ e, (requireNumbers context cols >>= fun _ => pure b) = .error e → e.kind ≠ .panic :=
  bind_calm (requireNumbers_calm context cols) fun _ _ h => by cases h

theorem markStatus_calm (now : Instant) (id : String) (status : TradeStatus) (reason : String) :
    Desk.CalmOp fun s : Store => s.markStatus now id status reason :=
  fun s => guard_bind_calm (write_calm s _ _ _)

theorem markMerged_calm (now : Instant) (id primary reason : String) :
    Desk.CalmOp fun s : Store => s.markMerged now id primary reason :=
  fun s => guard_bind_calm (write_calm s _ _ _)

theorem closeTrade_calm (now : Instant) (id : String) (exit : Float) (stamp : Instant)
    (reason : String) : Desk.CalmOp fun s : Store => s.closeTrade now id exit stamp reason := by
  intro s
  refine guard_bind_calm fun e h => ?_
  split at h
  · exact requireNumbers_pure_calm e h
  · cases h
    simp [missingRow, notFound, Fault.wrap]

theorem updateFill_calm (now : Instant) (t : Trade) :
    Desk.CalmOp fun s : Store => s.updateFill now t := by
  intro s
  refine guard_bind_calm fun e h => ?_
  split at h
  · split at h
    · cases h
      simp [staleWrite]
    · exact requireNumbers_pure_calm e h
  · cases h
    simp [staleWrite]

theorem get_calm (id : String) : Desk.CalmOp fun s : Store => s.get id := by
  intro s
  refine guard_bind_calm fun e h => ?_
  split at h
  · rename_i r _
    unfold Row.scan at h
    dsimp only at h
    split at h
    · cases h
      simp [unreadableTime, Fault.plain, Fault.wrap]
    · cases h
  · cases h
    simp [notFound]


/-! ### What each write does to the rows -/

/-- Rewriting the rows of an id relates every row to what it becomes. -/
theorem forall₂_modify_of {R : Row → Row → Prop} {s : Store} {id : String} {f : Row → Row}
    (h : ∀ r ∈ s.rows, R r (if r.trade.id = id then f r else r)) :
    List.Forall₂ R s.rows (s.modify id f).1.rows := by
  unfold modify
  split
  · refine List.forall₂_map_right_iff.mpr (List.forall₂_same.mpr fun r hr => ?_)
    simpa using h r hr
  · rename_i hnone
    refine List.forall₂_same.mpr fun r hr => ?_
    have hne : r.trade.id ≠ id := find?_none (by simpa using hnone) r hr
    simpa [hne] using h r hr

theorem leaves_write {keep : String → Prop} {s s' : Store} {id : String} {now : Instant}
    {f : Trade → Trade} (h : s.write id now f = .ok s')
    (hf : ∀ r ∈ s.rows, r.trade.id = id → Row.Leaves keep r (Row.touch now { r with trade := f r.trade })) :
    List.Forall₂ (Row.Leaves keep) s.rows s'.rows :=
  forall₂_write Row.Leaves.refl h hf

/-- A row of `T` rewritten with its id and trader leaves every other trader as it was. -/
theorem Row.leaves_of_owner {T : String} {r r' : Row} (hT : r.trade.traderId = T)
    (hid : r'.trade.id = r.trade.id) (htrader : r'.trade.traderId = r.trade.traderId) :
    Row.Leaves (· ≠ T) r r' :=
  ⟨hid, htrader, fun hk => absurd hT hk⟩

variable {T : String} {now : Instant} {id : String} {s s' : Store}

theorem leaves_markStatus {status : TradeStatus} {reason : String} (hown : s.Owns T id)
    (h : s.markStatus now id status reason = .ok s') :
    List.Forall₂ (Row.Leaves (· ≠ T)) s.rows s'.rows :=
  leaves_write (guard_bind_ok h).1 fun r hr hid => Row.leaves_of_owner (hown r hr hid) rfl rfl

theorem leaves_markMerged {primary reason : String} (hown : s.Owns T id)
    (h : s.markMerged now id primary reason = .ok s') :
    List.Forall₂ (Row.Leaves (· ≠ T)) s.rows s'.rows :=
  leaves_write (guard_bind_ok h).1 fun r hr hid => Row.leaves_of_owner (hown r hr hid) rfl rfl

theorem leaves_closeTrade {exit : Float} {stamp : Instant} {reason : String}
    (hown : s.Owns T id) (h : s.closeTrade now id exit stamp reason = .ok s') :
    List.Forall₂ (Row.Leaves (· ≠ T)) s.rows s'.rows := by
  rw [(closeTrade_ok h).1]
  exact forall₂_modify Row.Leaves.refl fun r hr hid => Row.leaves_of_owner (hown r hr hid) rfl rfl

theorem leaves_updateFill {t t' : Trade} (hown : s.Owns T t.id)
    (h : s.updateFill now t = .ok (t', s')) : List.Forall₂ (Row.Leaves (· ≠ T)) s.rows s'.rows := by
  rw [(updateFill_ok h).2.1]
  exact forall₂_modify Row.Leaves.refl fun r hr hid => Row.leaves_of_owner (hown r hr hid) rfl rfl

/-- A fill that leaves the status of every row of the trade live as it was leaves every trader
as it was. -/
theorem quiet_updateFill {t t' : Trade}
    (hsame : ∀ r ∈ s.rows, r.trade.id = t.id → t.status.live = r.trade.status.live)
    (h : s.updateFill now t = .ok (t', s')) :
    List.Forall₂ (Row.Leaves fun _ => True) s.rows s'.rows := by
  rw [(updateFill_ok h).2.1]
  exact forall₂_modify Row.Leaves.refl fun r hr hid => ⟨rfl, rfl, fun _ => hsame r hr hid⟩

theorem quiet_applyMerge {size entry : Float} {absorbed : String}
    (h : s.applyMerge now id size entry absorbed = .ok s') :
    List.Forall₂ (Row.Leaves fun _ => True) s.rows s'.rows := by
  rw [(applyMerge_ok h).1]
  exact forall₂_modify Row.Leaves.refl fun _ _ _ => ⟨rfl, rfl, fun _ => rfl⟩

theorem quiet_updateReconciled {pnl : Float} {closeId : String} {stamp : Instant}
    (h : s.updateReconciled now id pnl closeId stamp = .ok s') :
    List.Forall₂ (Row.Leaves fun _ => True) s.rows s'.rows :=
  leaves_write (updateReconciled_ok h).1 fun _ _ _ => ⟨rfl, rfl, fun _ => rfl⟩

theorem quiet_backfill {leg : Leg} {orderId : String}
    (h : s.backfill now id leg orderId = .ok s') :
    List.Forall₂ (Row.Leaves fun _ => True) s.rows s'.rows := by
  have h := (guard_bind_ok h).1
  cases h
  refine forall₂_modify Row.Leaves.refl fun r _ _ => ?_
  cases leg <;> dsimp only <;> split <;> exact ⟨rfl, rfl, fun _ => rfl⟩

end Store

end TradeLedger
