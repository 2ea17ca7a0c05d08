import TradeLedger.Proofs.Desk.Run
import TradeLedger.Proofs.Ledger.Rows
import TradeLedger.Proofs.Position.Groups
/-!
# One live trade per trader and symbol: the invariant

A trader should hold at most one live trade per symbol, symbols compared in upper case. Trades
are created live before admission looks at them, so the property is asked of the rows admission
settled: a row is held, for a list `P` of ids, when it is live and its id is in `P`. The
invariant carries what keeps it true from step to step: distinct row ids, and every cached
snapshot showing each held row of its trader, so a later conflict check sees them.

## Main definitions

* `Desk.OneLive`: the held rows are one per trader and symbol, with what keeps them so.
* `Desk.Moves`: a step admitting nothing, which only settles the rows.

## Theorems

* `Desk.OneLive.cons_of_not_live`, `Desk.OneLive.cons_of_alone`: an admission keeps it.
* `Desk.OneLive.live_unique`: at most one held row per trader and symbol.
-/

namespace TradeLedger

/-- A row the admissions hold: live, and its trade admitted. -/
def Row.Held (P : List String) (r : Row) : Prop := r.trade.status.live = true ∧ r.trade.id ∈ P

/-- Two rows of one trader on one symbol, symbols compared in upper case. -/
def Row.SameSymbol (r₁ r₂ : Row) : Prop :=
  r₁.trade.traderId = r₂.trade.traderId ∧
    String.toUpperSimple r₁.trade.symbol = String.toUpperSimple r₂.trade.symbol

/-- A snapshot of `trader` shows each held row of the trader in the group of its symbol and
side. -/
def Snapshot.Covers (P : List String) (s : Store) (trader : String) (S : Snapshot) : Prop :=
  ∀ r ∈ s.rows, Row.Held P r → r.trade.traderId = trader →
    ∃ t ∈ S.group (groupKey r.trade.symbol r.trade.side), t.id = r.trade.id

theorem Snapshot.Covers.of_settles {P : List String} {s s' : Store} {trader : String}
    {S : Snapshot} (hc : S.Covers P s trader) (hs : Store.Settles s s') : S.Covers P s' trader := by
  intro r' hr' hheld htrader
  obtain ⟨r, hr, hset⟩ := hs.exists_left hr'
  obtain ⟨t, ht, hid⟩ := hc r hr ⟨hset.live hheld.1, hset.id ▸ hheld.2⟩ (hset.trader ▸ htrader)
  exact ⟨t, by rwa [hset.symbol, hset.side], hid.trans hset.id.symm⟩

theorem List.lookup_filter_ne {β : Type} (l : List (String × β)) (key k : String) :
    (l.filter (·.1 != key)).lookup k = if k = key then none else l.lookup k := by
  induction l with
  | nil => simp
  | cons e l ih =>
    obtain ⟨a, b⟩ := e
    by_cases hk : k = a
    · subst hk
      by_cases ha : k = key
      · subst ha
        simp [ih]
      · simp [ha]
    · have hne : (k == a) = false := beq_eq_false_iff_ne.mpr hk
      by_cases ha : a = key
      · subst ha
        simp [ih, List.lookup_cons, hne]
      · simp [ha, ih, List.lookup_cons, hne]

namespace Desk

/-- One live held row per trader and symbol, and what keeps it so: distinct row ids, admitted
ids that name rows on a valid side, cached snapshots that show every held row, and no staged
failure for a store write. -/
structure OneLive (P : List String) (d : Desk) : Prop where
  nodup : (d.store.rows.map (·.trade.id)).Nodup
  admitted : ∀ x ∈ P, ∃ r ∈ d.store.rows, r.trade.id = x ∧ r.trade.side.valid = true ∧ x ≠ ""
  unique : ∀ r₁ ∈ d.store.rows, ∀ r₂ ∈ d.store.rows, Row.Held P r₁ → Row.Held P r₂ →
    Row.SameSymbol r₁ r₂ → r₁.trade.id = r₂.trade.id
  covered : ∀ trader S, d.snapshots.lookup trader = some S → S.Covers P d.store trader
  spares : d.plan.sparesWrites

/-- From a desk where the invariant holds, the rows only settle and the invariant holds again. -/
def Moves (P : List String) (d d' : Desk) : Prop :=
  OneLive P d → Store.Settles d.store d'.store ∧ OneLive P d'

variable {P : List String}

/-- A row whose id was admitted is on a valid side and has an id. -/
theorem OneLive.valid_of_mem {d : Desk} (h : OneLive P d) {r : Row} (hr : r ∈ d.store.rows)
    (hp : r.trade.id ∈ P) : r.trade.side.valid = true ∧ r.trade.id ≠ "" := by
  obtain ⟨r', hr', hid, hvalid, hne⟩ := h.admitted _ hp
  rw [List.inj_on_of_nodup_map h.nodup hr' hr hid] at hvalid
  exact ⟨hvalid, hne⟩

/-- The invariant holds across a change of the store that settles. -/
theorem OneLive.of_settles {d : Desk} (h : OneLive P d) {s : Store} (hs : Store.Settles d.store s) :
    OneLive P { d with store := s } where
  nodup := by
    show (s.rows.map (·.trade.id)).Nodup
    rw [hs.ids_eq]
    exact h.nodup
  admitted := by
    intro x hx
    obtain ⟨r, hr, hid, hvalid, hne⟩ := h.admitted x hx
    obtain ⟨r', hr', hset⟩ := hs.exists_right hr
    exact ⟨r', hr', hset.id.trans hid, hset.side ▸ hvalid, hne⟩
  unique := by
    intro r₁' hr₁' r₂' hr₂' hh₁ hh₂ hsame
    obtain ⟨r₁, hr₁, hs₁⟩ := hs.exists_left hr₁'
    obtain ⟨r₂, hr₂, hs₂⟩ := hs.exists_left hr₂'
    have hid := h.unique r₁ hr₁ r₂ hr₂ ⟨hs₁.live hh₁.1, hs₁.id ▸ hh₁.2⟩
      ⟨hs₂.live hh₂.1, hs₂.id ▸ hh₂.2⟩
      ⟨hs₁.trader ▸ hs₂.trader ▸ hsame.1, hs₁.symbol ▸ hs₂.symbol ▸ hsame.2⟩
    rw [hs₁.id, hs₂.id, hid]
  covered := fun trader S hS => (h.covered trader S hS).of_settles hs
  spares := h.spares

/-- A change of the store that settles, from a desk where the invariant holds, moves the desk. -/
theorem moves_store {d : Desk} {s : Store} (h : OneLive P d → Store.Settles d.store s) :
    Moves P d { d with store := s } := fun hinv =>
  ⟨h hinv, hinv.of_settles (h hinv)⟩

/-- Steps that admit nothing move the desk by a frame. -/
theorem moves_frame : Frame (Moves P) where
  refl := fun d hinv => ⟨Store.Settles.refl _, hinv⟩
  trans := fun h₁ h₂ hinv =>
    let ⟨hs₁, hinv₁⟩ := h₁ hinv
    let ⟨hs₂, hinv₂⟩ := h₂ hinv₁
    ⟨hs₁.trans hs₂, hinv₂⟩
  metrics := fun _ _ hinv => ⟨Store.Settles.refl _, { hinv with }⟩
  cooldowns := fun _ _ hinv => ⟨Store.Settles.refl _, { hinv with }⟩
  trip := fun _ m hinv => ⟨Store.Settles.refl _, { hinv with spares := FaultPlan.sparesWrites_trip hinv.spares m }⟩
  drop := fun d trader hinv => by
    refine ⟨Store.Settles.refl _, { hinv with covered := ?_ }⟩
    intro k S hS
    simp only [Desk.drop, List.lookup_filter_ne] at hS
    split at hS
    · cases hS
    · exact hinv.covered k S hS

/-- Admitting a trade that admission left out of the live statuses keeps the invariant. -/
theorem OneLive.cons_of_not_live {d : Desk} (h : OneLive P d) {x : String} {r : Row}
    (hr : r ∈ d.store.rows) (hid : r.trade.id = x) (hvalid : r.trade.side.valid = true)
    (hne : x ≠ "") (hdead : ∀ r' ∈ d.store.rows, r'.trade.id = x → r'.trade.status.live = false) :
    OneLive (x :: P) d := by
  -- a held row of `x :: P` is held by `P`: the row of `x` is not live
  have hheld : ∀ r' ∈ d.store.rows, Row.Held (x :: P) r' → Row.Held P r' := by
    intro r' hr' ⟨hlive, hmem⟩
    rcases List.mem_cons.mp hmem with hx | hp
    · simp [hdead r' hr' hx] at hlive
    · exact ⟨hlive, hp⟩
  refine ⟨h.nodup, ?_, ?_, ?_, h.spares⟩
  · intro y hy
    rcases List.mem_cons.mp hy with rfl | hp
    · exact ⟨r, hr, hid, hvalid, hne⟩
    · exact h.admitted y hp
  · intro r₁ hr₁ r₂ hr₂ hh₁ hh₂ hsame
    exact h.unique r₁ hr₁ r₂ hr₂ (hheld r₁ hr₁ hh₁) (hheld r₂ hr₂ hh₂) hsame
  · intro trader S hS r' hr' hh htrader
    exact h.covered trader S hS r' hr' (hheld r' hr' hh) htrader

/-- Admitting a trade keeps the invariant when no other held row shares its trader and symbol
and its trader's snapshot is not cached. -/
theorem OneLive.cons_of_alone {d : Desk} (h : OneLive P d) {r : Row} (hr : r ∈ d.store.rows)
    (hvalid : r.trade.side.valid = true) (hne : r.trade.id ≠ "")
    (halone : ∀ r' ∈ d.store.rows, Row.Held P r' → Row.SameSymbol r' r → r'.trade.id = r.trade.id)
    (hdropped : d.snapshots.lookup r.trade.traderId = none) :
    OneLive (r.trade.id :: P) d := by
  refine ⟨h.nodup, ?_, ?_, ?_, h.spares⟩
  · intro y hy
    rcases List.mem_cons.mp hy with rfl | hp
    · exact ⟨r, hr, rfl, hvalid, hne⟩
    · exact h.admitted y hp
  · intro r₁ hr₁ r₂ hr₂ ⟨hl₁, hm₁⟩ ⟨hl₂, hm₂⟩ hsame
    rcases List.mem_cons.mp hm₁ with h₁ | h₁ <;> rcases List.mem_cons.mp hm₂ with h₂ | h₂
    · rw [h₁, h₂]
    · -- the other row is held by `P` on the symbol of the admitted row
      have hr₁eq : r₁ = r := List.inj_on_of_nodup_map h.nodup hr₁ hr h₁
      subst hr₁eq
      exact (halone r₂ hr₂ ⟨hl₂, h₂⟩ ⟨hsame.1.symm, hsame.2.symm⟩).symm
    · have hr₂eq : r₂ = r := List.inj_on_of_nodup_map h.nodup hr₂ hr h₂
      subst hr₂eq
      exact halone r₁ hr₁ ⟨hl₁, h₁⟩ hsame
    · exact h.unique r₁ hr₁ r₂ hr₂ ⟨hl₁, h₁⟩ ⟨hl₂, h₂⟩ hsame
  · intro trader S hS r' hr' ⟨hl, hm⟩ htrader
    rcases List.mem_cons.mp hm with hx | hp
    · -- the admitted row's trader has no cached snapshot
      have hr'eq : r' = r := List.inj_on_of_nodup_map h.nodup hr' hr hx
      subst hr'eq
      rw [htrader] at hdropped
      rw [hdropped] at hS
      cases hS
    · exact h.covered trader S hS r' hr' ⟨hl, hp⟩ htrader

/-- Once every live row is held, a trader has at most one live row per symbol in upper case. -/
theorem OneLive.live_unique {d : Desk} (h : OneLive P d)
    (hall : ∀ r ∈ d.store.rows, r.trade.status.live = true → r.trade.id ∈ P)
    (trader symbol : String) :
    (d.store.rows.filter fun r => r.trade.traderId == trader &&
      String.toUpperSimple r.trade.symbol == String.toUpperSimple symbol &&
        r.trade.status.live).length ≤ 1 := by
  -- the rows kept have one id between them, and ids are distinct
  set keep := fun r : Row => r.trade.traderId == trader &&
    String.toUpperSimple r.trade.symbol == String.toUpperSimple symbol && r.trade.status.live
    with hkeep
  have hnd : ((d.store.rows.filter keep).map (·.trade.id)).Nodup :=
    h.nodup.sublist (List.filter_sublist.map _)
  apply Nat.le_of_not_lt
  intro hlt
  obtain ⟨r₁, r₂, rest, hsplit⟩ : ∃ r₁ r₂ rest, d.store.rows.filter keep = r₁ :: r₂ :: rest := by
    match d.store.rows.filter keep, hlt with
    | r₁ :: r₂ :: rest, _ => exact ⟨r₁, r₂, rest, rfl⟩
  have hm₁ : r₁ ∈ d.store.rows.filter keep := hsplit ▸ List.mem_cons_self
  have hm₂ : r₂ ∈ d.store.rows.filter keep := hsplit ▸ List.mem_cons_of_mem _ List.mem_cons_self
  simp only [hkeep, List.mem_filter, Bool.and_eq_true, beq_iff_eq] at hm₁ hm₂
  obtain ⟨hr₁, ⟨ht₁, hs₁⟩, hl₁⟩ := hm₁
  obtain ⟨hr₂, ⟨ht₂, hs₂⟩, hl₂⟩ := hm₂
  have hid := h.unique r₁ hr₁ r₂ hr₂ ⟨hl₁, hall r₁ hr₁ hl₁⟩ ⟨hl₂, hall r₂ hr₂ hl₂⟩
    ⟨ht₁.trans ht₂.symm, hs₁.trans hs₂.symm⟩
  rw [hsplit] at hnd
  simp only [List.map_cons, List.nodup_cons, List.mem_cons, not_or] at hnd
  exact hnd.1.1 hid

end Desk

end TradeLedger
