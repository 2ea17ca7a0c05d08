import TradeLedger.Position.Snapshot
/-!
# Groups of a snapshot and the positions they make

A snapshot files each live trade under the group of its symbol in upper case and its side, and a
position is the aggregate of one group. Admission asks a group for its position with the new
trade left out, so a trade with an id other than the new one, filed under the key admission
asks, always shows as a position.

## Theorems

* `group_ofTrades`: the group of a key holds, in order, the trades filed under it.
* `aggregate_eq_none`: no position only when every trade is left out or has no id.
* `Aggregation.push_position`: what a push makes of the position.
-/

namespace TradeLedger

theorem groupKey_eq_of_upper {a b : String} (h : String.toUpperSimple a = String.toUpperSimple b)
    (side : TradeSide) : groupKey a side = groupKey b side := by
  unfold groupKey
  rw [h]

theorem TradeSide.eq_or_eq_opposite {a b : TradeSide} (ha : a.valid = true) (hb : b.valid = true) :
    a = b ∨ a = b.opposite := by
  cases a <;> cases b <;> simp_all [TradeSide.valid, TradeSide.opposite]

namespace Snapshot

theorem group_push (s : Snapshot) (t : Trade) (key : String) :
    (s.push t).group key =
      if key = groupKey t.symbol t.side then s.group key ++ [t] else s.group key := by
  by_cases hex : (s.groups.find? (·.1 == groupKey t.symbol t.side)).isSome
  · -- the group exists: the trade is appended where the keys agree, and `find?` sees the same keys
    have hpush : s.push t =
        ⟨s.groups.map fun g => if g.1 == groupKey t.symbol t.side then (g.1, g.2 ++ [t]) else g⟩ := by
      simp only [push, hex, if_true]
    have hkeys : ((fun g : String × List Trade => g.1 == key) ∘ fun g =>
        if g.1 == groupKey t.symbol t.side then (g.1, g.2 ++ [t]) else g) = fun g => g.1 == key := by
      funext g
      simp only [Function.comp]
      split <;> rfl
    rw [hpush]
    unfold group
    rw [List.find?_map, hkeys]
    rcases hf : s.groups.find? (·.1 == key) with _ | g
    · have hk : key ≠ groupKey t.symbol t.side := fun hk => by simp [← hk, hf] at hex
      simp [hf, hk]
    · have hg : g.1 = key := by simpa using List.find?_some hf
      by_cases hk : key = groupKey t.symbol t.side
      · subst hk
        simp [hf, hg]
      · simp [hf, hg, hk]
  · -- a new group is put last, under a key no group had
    have hpush : s.push t = { groups := s.groups ++ [(groupKey t.symbol t.side, [t])] } := by
      simp only [push, hex]
      rfl
    rw [hpush]
    unfold group
    rw [List.find?_append]
    rcases hf : s.groups.find? (·.1 == key) with _ | g
    · by_cases hk : key = groupKey t.symbol t.side
      · subst hk
        simp [hf]
      · simp [hf, hk, Ne.symm hk]
    · have hg : g.1 = key := by simpa using List.find?_some hf
      have hk : key ≠ groupKey t.symbol t.side := fun hk => by simp [← hk, hf] at hex
      simp [hf, hk]

/-- The group of a key holds, in order, the trades filed under it. -/
theorem group_ofTrades (ts : List Trade) (key : String) :
    (ofTrades ts).group key = ts.filter fun t => groupKey t.symbol t.side == key := by
  suffices h : ∀ (s : Snapshot) (ts : List Trade),
      (ts.foldl push s).group key = s.group key ++ ts.filter fun t => groupKey t.symbol t.side == key by
    simpa [ofTrades, group] using h {} ts
  intro s ts
  induction ts generalizing s with
  | nil => simp
  | cons t ts ih =>
    rw [List.foldl_cons, ih, group_push]
    by_cases hk : key = groupKey t.symbol t.side
    · simp [hk]
    · simp [hk, Ne.symm hk]

theorem mem_group_ofTrades {ts : List Trade} {t : Trade} (ht : t ∈ ts) :
    t ∈ (ofTrades ts).group (groupKey t.symbol t.side) := by
  rw [group_ofTrades]
  exact List.mem_filter.mpr ⟨ht, by simp⟩

end Snapshot

/-- A push that succeeds starts the position with the trade while it has no primary, else keeps
it, and lists the trade's id after the ids it keeps. -/
theorem Aggregation.push_position {trader : String} {acc mid : Aggregation} {t : Trade}
    (h : Aggregation.push trader acc t = .ok mid) :
    mid.position.tradeIds =
        (if acc.position.primaryTradeId == "" then [] else acc.position.tradeIds) ++ [t.id] ∧
      mid.position.primaryTradeId =
        if acc.position.primaryTradeId == "" then t.id else acc.position.primaryTradeId := by
  unfold Aggregation.push at h
  rcases hs : Decimal.ofFloat t.size with _ | a
  · rw [hs] at h
    cases h
  · rcases hp : Decimal.ofFloat t.entryPrice with _ | b
    · rw [hs, hp] at h
      cases h
    · rw [hs, hp] at h
      cases h
      split <;> exact ⟨rfl, rfl⟩

/-- Pushing trades keeps the primary unset only while every trade pushed has no id. -/
theorem foldlM_push_primary {trader : String} :
    ∀ {ts : List Trade} {acc acc' : Aggregation},
      ts.foldlM (Aggregation.push trader) acc = .ok acc' →
      acc'.position.primaryTradeId = "" →
        acc.position.primaryTradeId = "" ∧ ∀ t ∈ ts, t.id = ""
  | [], acc, acc', h, hp => by
    cases h
    exact ⟨hp, by simp⟩
  | t :: ts, acc, acc', h, hp => by
    rw [List.foldlM_cons] at h
    rcases hpush : Aggregation.push trader acc t with _ | mid
    · rw [hpush] at h
      cases h
    · rw [hpush] at h
      obtain ⟨hmid, hts⟩ := foldlM_push_primary h hp
      -- one push sets the primary to the trade's id exactly when it was unset
      have hstep := (Aggregation.push_position hpush).2
      rw [hmid] at hstep
      split at hstep
      · rename_i hunset
        exact ⟨beq_iff_eq.mp hunset, List.forall_mem_cons.mpr ⟨hstep.symm, hts⟩⟩
      · rename_i hset
        exact absurd (beq_iff_eq.mpr hstep.symm) hset

/-- A group gives no position only when each of its trades is left out or has no id. -/
theorem aggregate_eq_none {trader : String} {trades : List Trade} {exclude : String}
    (h : aggregate trader trades exclude = .ok none) :
    ∀ t ∈ trades, t.id = exclude ∨ t.id = "" := by
  unfold aggregate at h
  rcases hf : (trades.filter (·.id != exclude)).foldlM (Aggregation.push trader) {} with _ | acc
  · rw [hf] at h
    cases h
  · rw [hf] at h
    simp only [bind, Except.bind] at h
    split at h
    · rename_i hp
      have hall := (foldlM_push_primary hf (beq_iff_eq.mp hp)).2
      intro t ht
      by_cases hx : t.id = exclude
      · exact .inl hx
      · exact .inr (hall t (List.mem_filter.mpr ⟨ht, by simpa using hx⟩))
    · cases h

theorem Snapshot.position_eq_none {s : Snapshot} {trader symbol : String} {side : TradeSide}
    {exclude : String} (h : s.position trader symbol side exclude = .ok none) :
    ∀ t ∈ s.group (groupKey symbol side), t.id = exclude ∨ t.id = "" :=
  aggregate_eq_none h

end TradeLedger
