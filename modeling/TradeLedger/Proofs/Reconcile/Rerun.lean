import TradeLedger.Proofs.Reconcile.BestMatch
import TradeLedger.Proofs.Reconcile.RunTally
import TradeLedger.Proofs.Reconcile.Corrections
import TradeLedger.Proofs.Number.Monotone
/-!
# A second run corrects nothing

A run that corrects a trade stores the rounded figure and the matched close id. A second run at
the same clock time starts from the close ids recorded on the listed trades: its claims at each
trade are the first run's followed by the recorded ones, so a record usable in the second run
was usable in the first, and the first run's choice still is. It then makes the same matches,
and storing a figure rounded to eight places loses no more than the threshold. This needs the
first run to start from trades with no close id: a trade moved off one releases it to the next
run.

## Main definitions

* `RunEnv.Stable`: a trade whose history a second run matches as the first did.

## Theorems

* `Desk.matchRecord_of_usable_le`: the best of a larger set is the best of a smaller one.
* `RunEnv.walk_again`: the second walk makes the same matches and writes nothing.
* `Desk.reconcile_twice_corrects_nothing`: a second run corrects and writes nothing.
-/

namespace TradeLedger

/-! ### Matching over fewer usable ids -/

section Mono

variable {t : Trade} {tol : Tolerance} {ok ok' : String → Bool} {r : Record}

theorem rankOf_of_usable_le (hle : ∀ c, ok' c = true → ok c = true) {k : MatchRank}
    (h : rankOf t tol ok' r = some k) : rankOf t tol ok r = some k := by
  unfold rankOf at h ⊢
  by_cases hid : (r.closeId == "" || !ok' r.closeId) = true
  · rw [if_pos hid] at h
    cases h
  · rw [if_neg hid] at h
    have hok : (r.closeId == "" || !ok r.closeId) = false := by
      simp only [Bool.or_eq_true, beq_iff_eq, Bool.not_eq_eq_eq_not, Bool.not_true, not_or,
        Bool.not_eq_false] at hid
      simp [hid.1, hle _ hid.2]
    rw [hok]
    exact h

theorem rankOf_usable {k : MatchRank} (h : rankOf t tol ok r = some k) :
    r.closeId ≠ "" ∧ ok r.closeId = true := by
  unfold rankOf at h
  by_cases hid : (r.closeId == "" || !ok r.closeId) = true
  · rw [if_pos hid] at h
    cases h
  · simpa using hid

theorem rankOf_of_usable (h : ok' r.closeId = true) (h₀ : ok r.closeId = true) :
    rankOf t tol ok' r = rankOf t tol ok r := by
  unfold rankOf
  rw [h, h₀]

variable {records : List Record}

/-- The best record stays the best when fewer ids are usable but its own still is, provided
close ids are distinct and size differences are numbers: it beats every record still usable. -/
theorem bestMatch_of_usable_le (hle : ∀ c, ok' c = true → ok c = true)
    (hids : (records.map (·.closeId)).Nodup)
    (hsize : ∀ r ∈ records, (r.size - t.size).abs.isNaN = false) {b : Record}
    (hb : bestMatch t records tol ok = some b) (hb' : ok' b.closeId = true) :
    bestMatch t records tol ok' = some b := by
  obtain ⟨bk, hmem, hrank, hmin⟩ := bestMatch_some hb
  have hrank' : rankOf t tol ok' b = some bk := by
    rw [rankOf_of_usable hb' (rankOf_usable hrank).2]
    exact hrank
  have hsome : (bestMatch t records tol ok').isSome = true :=
    bestMatch_isSome.2 ⟨b, hmem, by rw [hrank']; rfl⟩
  obtain ⟨b', hb'eq⟩ := Option.isSome_iff_exists.1 hsome
  rw [hb'eq]
  obtain ⟨bk', hmem', hrank₂, hmin'⟩ := bestMatch_some hb'eq
  by_cases hid : b'.closeId = b.closeId
  · exact congrArg some (List.inj_on_of_nodup_map hids hmem' hmem hid)
  · -- two records with different ids: one would beat the other
    have hsz : ∀ {r k}, r ∈ records → rankOf t tol ok r = some k → k.sizeDiff.isNaN = false :=
      fun hr hk => (rankOf_sizeDiff hk).symm ▸ hsize _ hr
    have hrank₁ := rankOf_of_usable_le hle hrank₂
    rcases MatchRank.less_total (hsz hmem' hrank₁) (hsz hmem hrank)
        (by rw [rankOf_closeId hrank₁, rankOf_closeId hrank]; exact hid) with hlt | hlt
    · rw [hmin b' hmem' bk' hrank₁] at hlt
      cases hlt
    · rw [hmin' b hmem bk hrank'] at hlt
      cases hlt

/-- Nothing fits under fewer usable ids when nothing fits under more. -/
theorem bestMatch_eq_none_of_usable_le (hle : ∀ c, ok' c = true → ok c = true)
    (h : bestMatch t records tol ok = none) : bestMatch t records tol ok' = none := by
  rw [← Option.not_isSome_iff_eq_none, bestMatch_isSome] at h ⊢
  rintro ⟨r, hr, hsome⟩
  obtain ⟨k, hk⟩ := Option.isSome_iff_exists.1 hsome
  exact h ⟨r, hr, by rw [rankOf_of_usable_le hle hk]; rfl⟩

end Mono

namespace Desk

variable {cfg : ReconcileConfig} {t : Trade} {records : List Record} {ok ok' : String → Bool}

/-- A match survives fewer usable ids when its record's id stays usable, provided close ids are
distinct and size differences are numbers. -/
theorem matchRecord_of_usable_le (hle : ∀ c, ok' c = true → ok c = true)
    (hids : (records.map (·.closeId)).Nodup)
    (hsize : ∀ r ∈ records, (r.size - t.size).abs.isNaN = false) {b : Record} {relaxed : Bool}
    (hb : matchRecord cfg t records ok = some (b, relaxed)) (hb' : ok' b.closeId = true) :
    matchRecord cfg t records ok' = some (b, relaxed) := by
  unfold matchRecord at hb ⊢
  cases hs : bestMatch t records cfg.strict ok with
  | some b₀ =>
    rw [hs] at hb
    cases hb
    rw [bestMatch_of_usable_le hle hids hsize hs hb']
  | none =>
    -- no record fits the strict tolerances, under either set of usable ids
    rw [hs] at hb
    obtain ⟨b₀, hr, hbeq⟩ := Option.map_eq_some_iff.mp hb
    cases hbeq
    rw [bestMatch_eq_none_of_usable_le hle hs, bestMatch_of_usable_le hle hids hsize hr hb']
    rfl

/-- Nothing matches under fewer usable ids when nothing matches under more. -/
theorem matchRecord_eq_none_of_usable_le (hle : ∀ c, ok' c = true → ok c = true)
    (h : matchRecord cfg t records ok = none) : matchRecord cfg t records ok' = none := by
  unfold matchRecord at h ⊢
  cases hs : bestMatch t records cfg.strict ok with
  | some b =>
    rw [hs] at h
    cases h
  | none =>
    rw [hs, Option.map_eq_none_iff] at h
    rw [bestMatch_eq_none_of_usable_le hle hs, bestMatch_eq_none_of_usable_le hle h]
    rfl

variable {C R : List (String × String)} {tid c : String}

theorem usable_of_usable_append (h : usable (C ++ R) tid c = true) : usable C tid c = true := by
  unfold usable at h ⊢
  rw [List.lookup_append] at h
  cases hc : C.lookup c with
  | none => rfl
  | some o =>
    rw [hc, Option.some_or] at h
    exact h

/-- An id usable for a trade stays usable when the added claims give it to no other trade. -/
theorem usable_append (h : usable C tid c = true)
    (hR : R.lookup c = none ∨ R.lookup c = some tid) : usable (C ++ R) tid c = true := by
  unfold usable at h ⊢
  rw [List.lookup_append]
  cases hc : C.lookup c with
  | some o =>
    rw [hc] at h
    rw [Option.some_or]
    exact h
  | none =>
    rw [Option.none_or]
    rcases hR with hR | hR <;> simp [hR]

end Desk

/-! ### Trades a match cannot tell apart -/

/-- Two trades a run's match cannot tell apart: the same id, symbol, side, size, and creation
and close times. -/
structure Trade.Alike (t t' : Trade) : Prop where
  id : t'.id = t.id
  symbol : t'.symbol = t.symbol
  side : t'.side = t.side
  size : t'.size = t.size
  createdAt : t'.createdAt = t.createdAt
  closedAt : t'.closedAt = t.closedAt

theorem Trade.alike_withCorrections (cs : List Correction) (now : Instant) (t : Trade) :
    t.Alike (t.withCorrections cs now) := by
  rcases Trade.withCorrections_eq_or cs now t with h | ⟨c, -, -, h⟩ <;> rw [h] <;>
    exact ⟨rfl, rfl, rfl, rfl, rfl, rfl⟩

namespace Trade.Alike

variable {t t' : Trade}

theorem rankOf_eq (h : t.Alike t') : rankOf t' = rankOf t := by
  funext tol ok r
  unfold rankOf
  rw [h.symbol, h.side, h.size, h.createdAt, h.closedAt]

theorem matchRecord_eq (h : t.Alike t') (cfg : ReconcileConfig) (records : List Record)
    (ok : String → Bool) :
    Desk.matchRecord cfg t' records ok = Desk.matchRecord cfg t records ok := by
  unfold Desk.matchRecord bestMatch
  rw [h.rankOf_eq]

theorem records_eq (h : t.Alike t') (e : RunEnv) : e.records t' = e.records t := by
  unfold RunEnv.records
  rw [h.symbol, h.createdAt, h.closedAt]

theorem fundingFor_eq (h : t.Alike t') (e : RunEnv) (rec : Record) :
    e.fundingFor t' rec = e.fundingFor t rec := by
  unfold RunEnv.fundingFor
  rw [h.symbol]

end Trade.Alike

theorem Desk.mem_of_lookup {claimed : List (String × String)} {k o : String}
    (h : claimed.lookup k = some o) : (k, o) ∈ claimed := by
  obtain ⟨l₁, l₂, hl, -⟩ := List.lookup_eq_some_iff.mp h
  rw [hl]
  exact List.mem_append_right _ List.mem_cons_self

theorem Desk.matchRecord_mem {cfg : ReconcileConfig} {t : Trade} {records : List Record}
    {ok : String → Bool} {b : Record} {relaxed : Bool}
    (h : Desk.matchRecord cfg t records ok = some (b, relaxed)) : b ∈ records := by
  unfold Desk.matchRecord at h
  split at h
  · cases h
    exact (bestMatch_some ‹_›).choose_spec.1
  · obtain ⟨b₀, hb, hbeq⟩ := Option.map_eq_some_iff.mp h
    cases hbeq
    exact (bestMatch_some hb).choose_spec.1

/-! ### What one trade does to a run that writes -/

namespace RunEnv

variable {e : RunEnv}

/-- An answer that does not stop a run: a success, or a failure that is not a stop. -/
def GoesOn (r : Except Fault Unit) : Prop := ∀ f, r = .error f → f.kind ≠ .panic

/-- What one trade's step can do to the tally of a run that writes: leave it, claim a close id
usable for the trade, or claim it and store and list a correction of the trade from it. -/
inductive Moves (e : RunEnv) (t : Trade) (v : RunTally) : RunTally → Prop
  | stay : Moves e t v v
  | claim (b : Record) (hu : Desk.usable v.claimed t.id b.closeId = true) :
      Moves e t v { v with claimed := (b.closeId, t.id) :: v.claimed }
  | correct (b : Record) (hu : Desk.usable v.claimed t.id b.closeId = true) (c : Correction)
      (htrade : c.tradeId = t.id) (hclose : c.closeId = b.closeId) (s : Store)
      (hs : v.store.updateReconciled e.now t.id c.newPnl b.closeId e.now = .ok s) :
      Moves e t v { v with claimed := (b.closeId, t.id) :: v.claimed, store := s,
                           updated := v.updated + 1, corrections := v.corrections ++ [c] }

theorem tradeStep_moves (hdry : e.dryRun = false) (t : Trade) (v : RunTally) :
    e.Moves t v (e.tradeStep t v).2 := by
  unfold tradeStep
  by_cases hz : t.closedAt.isZero = true
  · simp only [hz, if_true]
    exact .stay
  simp only [hz, Bool.false_eq_true, if_false]
  cases e.records t with
  | error f => exact .stay
  | ok rs =>
  dsimp only
  cases hm : Desk.matchRecord e.config t rs (Desk.usable v.claimed t.id) with
  | none => exact .stay
  | some p =>
  obtain ⟨b, relaxed⟩ := p
  have hu := (Desk.matchRecord_usable hm).2
  dsimp only
  cases e.fundingFor t b with
  | error f => exact .claim b hu
  | ok x =>
  dsimp only
  unfold correctStep
  cases derivePnl t.side b x with
  | error m => exact .claim b hu
  | ok dv =>
  dsimp only
  cases material t.realizedPnl dv e.config.materiality with
  | error m => exact .claim b hu
  | ok mat =>
  cases mat
  · exact .claim b hu
  -- a material difference is written, the run not being dry
  dsimp only
  rw [hdry]
  simp only [Bool.false_eq_true, if_false]
  cases hs : v.store.updateReconciled e.now t.id (dv.round 8).toFloat b.closeId e.now with
  | error f => exact .claim b hu
  | ok s => exact .correct b hu _ rfl rfl s hs

namespace Moves

variable {t : Trade} {v v' : RunTally}

theorem claimed (h : e.Moves t v v') : ∃ pre, v'.claimed = pre ++ v.claimed := by
  cases h with
  | stay => exact ⟨[], rfl⟩
  | claim b | correct b => exact ⟨[_], rfl⟩

theorem corrections (h : e.Moves t v v') :
    ∃ new, v'.corrections = v.corrections ++ new ∧ ∀ c ∈ new, c.tradeId = t.id := by
  cases h with
  | stay | claim _ => exact ⟨[], by simp, by simp⟩
  | correct b hu c htrade => exact ⟨[c], rfl, by simpa using htrade⟩

/-- The figure a trade's row holds after the run: the one it had when the step made no
correction, the stored rounded figure when it did, provided no other correction of the run is
of the trade. -/
theorem realizedPnl_withCorrections (h : e.Moves t v v') (now : Instant)
    {later : List Correction} (hfresh : ∀ c ∈ v.corrections, c.tradeId ≠ t.id)
    (hlater : ∀ c ∈ later, c.tradeId ≠ t.id) :
    v'.corrections = v.corrections ∧
        (t.withCorrections (v'.corrections ++ later) now).realizedPnl = t.realizedPnl ∨
      ∃ c, v'.corrections = v.corrections ++ [c] ∧
        (t.withCorrections (v'.corrections ++ later) now).realizedPnl = storedFloat c.newPnl := by
  cases h with
  | stay | claim _ =>
    exact .inl ⟨rfl, by
      rw [Trade.withCorrections_append_fresh hlater, Trade.withCorrections_of_fresh hfresh]⟩
  | correct b hu c htrade =>
    refine .inr ⟨c, rfl, ?_⟩
    rw [Trade.withCorrections_append_fresh hlater, Trade.withCorrections_fresh_append hfresh,
      Trade.withCorrections_singleton htrade]

end Moves

/-- A walk that went through took each of its trades without a stop. -/
theorem walk_cons_ok {t : Trade} {l : List Trade} {v F : RunTally}
    (h : e.walk (t :: l) v = (.ok (), F)) :
    GoesOn (e.tradeStep t v).1 ∧ e.walk l (e.tradeStep t v).2 = (.ok (), F) := by
  rw [walk] at h
  rcases hs : e.tradeStep t v with ⟨r, v'⟩
  rw [hs] at h
  cases r with
  | ok u => exact ⟨fun f hf => (by cases hf), h⟩
  | error f =>
    by_cases hk : (f.kind == .panic) = true
    · simp only [hk, if_true] at h
      cases h
    · simp only [hk, Bool.false_eq_true, if_false] at h
      exact ⟨fun f' hf => (by cases hf; simpa using hk), h⟩

/-- A trade taken without a stop hands its tally to the rest of the walk. -/
theorem walk_cons_of_goes {t : Trade} {l : List Trade} {v : RunTally}
    (hgoes : GoesOn (e.tradeStep t v).1) :
    e.walk (t :: l) v = e.walk l (e.tradeStep t v).2 := by
  rw [walk]
  rcases hs : e.tradeStep t v with ⟨r, v'⟩
  rw [hs] at hgoes
  cases r with
  | ok u => rfl
  | error f =>
    have hk : (f.kind == .panic) = false := by simpa using hgoes f rfl
    simp only [hk, Bool.false_eq_true, if_false]

/-- A walk stops at a trade or goes on from its tally. -/
theorem walk_cons (t : Trade) (l : List Trade) (v : RunTally) :
    (e.walk (t :: l) v).2 = (e.tradeStep t v).2 ∨
      (e.walk (t :: l) v).2 = (e.walk l (e.tradeStep t v).2).2 := by
  rw [walk]
  rcases e.tradeStep t v with ⟨f | _, v'⟩
  · dsimp only
    split
    · exact .inl rfl
    · exact .inr rfl
  · exact .inr rfl

theorem walk_claimed (hdry : e.dryRun = false) :
    ∀ (l : List Trade) (v : RunTally), ∃ pre, (e.walk l v).2.claimed = pre ++ v.claimed
  | [], v => ⟨[], rfl⟩
  | t :: l, v => by
    obtain ⟨pre₁, h₁⟩ := (tradeStep_moves hdry t v).claimed
    rcases walk_cons t l v with h | h <;> rw [h]
    · exact ⟨pre₁, h₁⟩
    · obtain ⟨pre₂, h₂⟩ := walk_claimed hdry l (e.tradeStep t v).2
      exact ⟨pre₂ ++ pre₁, by rw [h₂, h₁, List.append_assoc]⟩

/-- A run's corrections only grow, by corrections of the trades it walked. -/
theorem walk_corrections (hdry : e.dryRun = false) :
    ∀ (l : List Trade) (v : RunTally), ∃ later,
      (e.walk l v).2.corrections = v.corrections ++ later ∧ ∀ c ∈ later, c.tradeId ∈ l.map (·.id)
  | [], v => ⟨[], by simp [walk]⟩
  | t :: l, v => by
    obtain ⟨new, h₁, hnew⟩ := (tradeStep_moves hdry t v).corrections
    rcases walk_cons t l v with h | h <;> rw [h]
    · exact ⟨new, h₁, fun c hc => by simp [hnew c hc]⟩
    · obtain ⟨later, h₂, hlater⟩ := walk_corrections hdry l (e.tradeStep t v).2
      refine ⟨new ++ later, by rw [h₂, h₁, List.append_assoc], fun c hc => ?_⟩
      rcases List.mem_append.mp hc with hc | hc
      · simp [hnew c hc]
      · exact List.mem_cons_of_mem _ (hlater c hc)

/-! ### The first run -/

/-- What holds along a run that writes, from trades that hold no close id, before the trades `l`
still to come: the store is the first store `s₀` with the corrections so far applied, each
claimed id is claimed once and for a trade already walked, and the id of each correction is
claimed for its trade. -/
structure FirstRun (e : RunEnv) (s₀ : Store) (l : List Trade) (v : RunTally) : Prop where
  store : v.store = s₀.withCorrections v.corrections e.now
  owners : ∀ p ∈ v.claimed, p.2 ∉ l.map (·.id)
  keys : (v.claimed.map Prod.fst).Nodup
  held : ∀ c ∈ v.corrections, (c.closeId, c.tradeId) ∈ v.claimed

namespace FirstRun

variable {s₀ : Store} {l : List Trade} {v : RunTally}

/-- No correction so far is of a trade still to come. -/
theorem fresh (h : e.FirstRun s₀ l v) : ∀ c ∈ v.corrections, c.tradeId ∉ l.map (·.id) :=
  fun c hc => h.owners _ (h.held c hc)

/-- A run starts from the first store, with no claim and no correction. -/
theorem start (s₀ : Store) (l : List Trade) : e.FirstRun s₀ l ⟨[], s₀, 0, []⟩ where
  store := Store.withCorrections_nil.symm
  owners := by simp
  keys := List.nodup_nil
  held := by simp

theorem fresh_head {t : Trade} (h : e.FirstRun s₀ (t :: l) v) :
    ∀ c ∈ v.corrections, c.tradeId ≠ t.id :=
  fun c hc heq => h.fresh c hc (by rw [heq]; exact List.mem_cons_self)

theorem drop {t : Trade} (h : e.FirstRun s₀ (t :: l) v) : e.FirstRun s₀ l v :=
  ⟨h.store, fun p hp hl => h.owners p hp (List.mem_cons_of_mem _ hl), h.keys, h.held⟩

theorem toNil (h : e.FirstRun s₀ l v) : e.FirstRun s₀ [] v :=
  ⟨h.store, by simp, h.keys, h.held⟩

/-- One trade keeps the invariant. A usable id is unclaimed, since the trade owns no claim yet;
a correction is written to the trade's row, which no earlier correction names. -/
theorem step {t : Trade} {v' : RunTally} (h : e.FirstRun s₀ (t :: l) v)
    (hid : t.id ∉ l.map (·.id)) (hclosed : s₀.closed = false)
    (hrow : ∃ r ∈ s₀.rows, r.trade.id = t.id) (hm : e.Moves t v v') : e.FirstRun s₀ l v' := by
  have hnew : ∀ b : Record, Desk.usable v.claimed t.id b.closeId = true →
      b.closeId ∉ v.claimed.map Prod.fst := by
    intro b hu hmem
    rcases Desk.usable_lookup hu with hn | hs
    · obtain ⟨p, hp, hpk⟩ := List.mem_map.mp hmem
      have hne := List.lookup_eq_none_iff.mp hn p hp
      simp [hpk] at hne
    · exact h.owners _ (Desk.mem_of_lookup hs) List.mem_cons_self
  have howners : ∀ b : Record, ∀ p ∈ (b.closeId, t.id) :: v.claimed, p.2 ∉ l.map (·.id) := by
    intro b p hp
    rcases List.mem_cons.mp hp with rfl | hp
    · exact hid
    · exact h.drop.owners p hp
  cases hm with
  | stay => exact h.drop
  | claim b hu =>
    exact ⟨h.store, howners b, List.nodup_cons.mpr ⟨hnew b hu, h.keys⟩,
      fun c hc => List.mem_cons_of_mem _ (h.held c hc)⟩
  | correct b hu c htrade hclose s hs =>
    obtain ⟨r, hr, hrid⟩ := hrow
    -- the write is the correction applied to the store the earlier ones left
    have hwrite : (s₀.withCorrections v.corrections e.now).updateReconciled e.now c.tradeId
        c.newPnl c.closeId e.now = .ok (s₀.withCorrections (v.corrections ++ [c]) e.now) :=
      Store.updateReconciled_withCorrections hclosed hr (hrid.trans htrade.symm)
        (htrade ▸ h.fresh_head) (Store.updateReconciled_ok hs).2.2
    rw [htrade, hclose, ← h.store, hs] at hwrite
    refine ⟨Except.ok.inj hwrite, howners b, List.nodup_cons.mpr ⟨hnew b hu, h.keys⟩, ?_⟩
    intro c' hc'
    rcases List.mem_append.mp hc' with hc' | hc'
    · exact List.mem_cons_of_mem _ (h.held c' hc')
    · rw [List.mem_singleton.mp hc', htrade, hclose]
      exact List.mem_cons_self

/-- A whole first run keeps the invariant. -/
theorem run (hdry : e.dryRun = false) (hclosed : s₀.closed = false) :
    ∀ (l : List Trade) (v : RunTally), e.FirstRun s₀ l v → (l.map (·.id)).Nodup →
      (∀ t ∈ l, ∃ r ∈ s₀.rows, r.trade.id = t.id) → e.FirstRun s₀ [] (e.walk l v).2
  | [], _, h, _, _ => h
  | t :: l, v, h, hids, hrows => by
    have h' := h.step (List.nodup_cons.mp hids).1 hclosed (hrows t List.mem_cons_self)
      (tradeStep_moves hdry t v)
    rcases walk_cons t l v with hw | hw <;> rw [hw]
    · exact h'.toNil
    · exact run hdry hclosed l _ h' (List.nodup_cons.mp hids).2
        fun t' ht' => hrows t' (List.mem_cons_of_mem _ ht')

end FirstRun

/-! ### The second run -/

/-- A trade whose history a second run matches as the first did, and whose stored correction the
second run leaves: the history's close ids are distinct, its size differences with the trade are
numbers, and storing any figure derived from one of its records, rounded to eight places, differs
from that figure by no more than the materiality threshold. -/
def Stable (e : RunEnv) (t : Trade) : Prop :=
  ∀ rs, e.records t = .ok rs →
    (rs.map (·.closeId)).Nodup ∧
    ∀ r ∈ rs, (r.size - t.size).abs.isNaN = false ∧
      ∀ x, e.fundingFor t r = .ok x → ∀ dv, derivePnl t.side r x = .ok dv →
        material (storedFloat (dv.round 8).toFloat) dv e.config.materiality = .ok false

theorem correctStep_claimed (t : Trade) (b : Record) (relaxed : Bool) (x : Float)
    (v : RunTally) :
    (e.correctStep t b relaxed x v).2.claimed = v.claimed := by
  unfold correctStep
  split
  · rfl
  split
  · rfl
  · rfl
  · dsimp only
    split
    · rfl
    · split <;> rfl

/-- The second run's correction of a trade the first run matched to the same record: the first
run did not stop there, and the second leaves the trade, whose stored figure is either the one
the first run found close enough or the rounded figure the first run stored. -/
theorem correctStep_again (hdry : e.dryRun = false) {t t₂ : Trade} (hside : t₂.side = t.side)
    {b : Record} {relaxed : Bool} {x : Float} {V W : RunTally}
    (hround : ∀ dv, derivePnl t.side b x = .ok dv →
      material (storedFloat (dv.round 8).toFloat) dv e.config.materiality = .ok false)
    (hwrite : ∀ D : Decimal, ∃ s,
      V.store.updateReconciled e.now t.id D.toFloat b.closeId e.now = .ok s)
    (hgoes : GoesOn (e.correctStep t b relaxed x V).1)
    (hpnl : (e.correctStep t b relaxed x V).2.corrections = V.corrections ∧
        t₂.realizedPnl = t.realizedPnl ∨
      ∃ c, (e.correctStep t b relaxed x V).2.corrections = V.corrections ++ [c] ∧
        t₂.realizedPnl = storedFloat c.newPnl) :
    (e.correctStep t b relaxed x V).1 = .ok () ∧
      e.correctStep t₂ b relaxed x W = (.ok (), W) := by
  unfold correctStep at hgoes hpnl ⊢
  rw [hside]
  cases hd : derivePnl t.side b x with
  | error m =>
    -- a figure that cannot be derived stops the first run
    rw [hd] at hgoes
    exact absurd rfl (hgoes _ rfl)
  | ok dv =>
  rw [hd] at hgoes hpnl
  dsimp only at hgoes hpnl ⊢
  cases hm : material t.realizedPnl dv e.config.materiality with
  | error m =>
    rw [hm] at hgoes
    exact absurd rfl (hgoes _ rfl)
  | ok mat =>
  rw [hm] at hgoes hpnl
  cases mat with
  | false =>
    -- the first run found the stored figure close enough and left it
    rcases hpnl with ⟨-, hp⟩ | ⟨c, hc, -⟩
    · rw [hp, hm]
      exact ⟨rfl, rfl⟩
    · simp at hc
  | true =>
    -- the first run stored the rounded figure, which the second finds close enough
    obtain ⟨s, hs⟩ := hwrite (dv.round 8)
    simp only [hdry, Bool.false_eq_true, if_false, hs] at hpnl ⊢
    rcases hpnl with ⟨hc, -⟩ | ⟨c, hc, hp⟩
    · simp at hc
    · have hcc := List.singleton_inj.mp (List.append_cancel_left hc)
      refine ⟨trivial, ?_⟩
      rw [hp, ← hcc, hround dv hd]

theorem tradeStep_claimed_of_match {t : Trade} {V : RunTally} {rs : List Record} {b : Record}
    {relaxed : Bool} (hz : ¬t.closedAt.isZero = true) (hrs : e.records t = .ok rs)
    (hm : Desk.matchRecord e.config t rs (Desk.usable V.claimed t.id) = some (b, relaxed)) :
    (e.tradeStep t V).2.claimed = (b.closeId, t.id) :: V.claimed := by
  unfold tradeStep
  simp only [hz, Bool.false_eq_true, if_false, hrs, hm]
  cases e.fundingFor t b with
  | error f => rfl
  | ok x => exact correctStep_claimed t b relaxed x _

/-- The second run's step at a trade, against the first run's: the second run's claims are the
first's followed by the recorded ones `R`, which give no id the first run claims to another
trade. The second run then matches as the first did and writes nothing: it answers as the first
did and only claims. -/
theorem tradeStep_again (hdry : e.dryRun = false) {t t₂ : Trade} (ht : t.Alike t₂)
    {V W : RunTally} {R : List (String × String)} (hW : W.claimed = V.claimed ++ R)
    (hstable : e.Stable t)
    (hR : ∀ p ∈ (e.tradeStep t V).2.claimed, R.lookup p.1 = none ∨ R.lookup p.1 = some p.2)
    (hwrite : ∀ (D : Decimal) closeId, ∃ s,
      V.store.updateReconciled e.now t.id D.toFloat closeId e.now = .ok s)
    (hgoes : GoesOn (e.tradeStep t V).1)
    (hpnl : (e.tradeStep t V).2.corrections = V.corrections ∧ t₂.realizedPnl = t.realizedPnl ∨
      ∃ c, (e.tradeStep t V).2.corrections = V.corrections ++ [c] ∧
        t₂.realizedPnl = storedFloat c.newPnl) :
    e.tradeStep t₂ W =
      ((e.tradeStep t V).1, { W with claimed := (e.tradeStep t V).2.claimed ++ R }) := by
  obtain ⟨C, S, U, K⟩ := W
  dsimp only at hW
  subst hW
  by_cases hz : t.closedAt.isZero = true
  · unfold tradeStep
    simp only [ht.closedAt, hz, if_true]
  cases hrs : e.records t with
  | error f =>
    unfold tradeStep
    simp only [ht.closedAt, ht.records_eq, hz, Bool.false_eq_true, if_false, hrs]
  | ok rs =>
  obtain ⟨hids, hrec⟩ := hstable rs hrs
  cases hm : Desk.matchRecord e.config t rs (Desk.usable V.claimed t.id) with
  | none =>
    -- nothing fits under the first run's claims, so nothing fits under more
    unfold tradeStep
    simp only [ht.closedAt, ht.records_eq, ht.matchRecord_eq, ht.id, hz, Bool.false_eq_true,
      if_false, hrs, hm,
      Desk.matchRecord_eq_none_of_usable_le (fun _ => Desk.usable_of_usable_append) hm]
  | some p =>
  obtain ⟨b, relaxed⟩ := p
  -- the first run's record is still usable: the recorded claims give its id to this trade or none
  have hb : Desk.usable (V.claimed ++ R) t.id b.closeId = true :=
    Desk.usable_append (Desk.matchRecord_usable hm).2
      (hR _ (by rw [tradeStep_claimed_of_match hz hrs hm]; exact List.mem_cons_self))
  unfold tradeStep at hgoes hpnl ⊢
  simp only [ht.closedAt, ht.records_eq, ht.matchRecord_eq, ht.id, hz, Bool.false_eq_true,
    if_false, hrs, hm] at hgoes hpnl ⊢
  rw [Desk.matchRecord_of_usable_le (fun _ => Desk.usable_of_usable_append) hids
    (fun r hr => (hrec r hr).1) hm hb]
  dsimp only
  rw [ht.fundingFor_eq]
  cases hf : e.fundingFor t b with
  | error f => rfl
  | ok x =>
  rw [hf] at hgoes hpnl
  dsimp only at hgoes hpnl ⊢
  obtain ⟨h₁, h₂⟩ := correctStep_again hdry ht.side
    (V := { V with claimed := (b.closeId, t.id) :: V.claimed })
    (W := ⟨(b.closeId, t.id) :: (V.claimed ++ R), S, U, K⟩)
    (fun dv hd => (hrec b (Desk.matchRecord_mem hm)).2 x hf dv hd)
    (fun D => hwrite D b.closeId) hgoes hpnl
  rw [h₂, h₁, correctStep_claimed]
  rfl

/-- The second run over the trades the first run corrected, against the first run: along the
way the second run's claims are the first run's followed by the recorded claims `R`, which are
among the first run's final claims, and the second run ends where the first did, with those
claims and nothing written. -/
theorem walk_again (hdry : e.dryRun = false) {s₀ : Store} (hclosed : s₀.closed = false)
    {F : RunTally} {R : List (String × String)} (hkeys : (F.claimed.map Prod.fst).Nodup)
    (hR : ∀ p ∈ R, p ∈ F.claimed) :
    ∀ (l : List Trade) (V W : RunTally), e.walk l V = (.ok (), F) → e.FirstRun s₀ l V →
      (l.map (·.id)).Nodup → (∀ t ∈ l, ∃ r ∈ s₀.rows, r.trade.id = t.id) →
      (∀ t ∈ l, e.Stable t) → W.claimed = V.claimed ++ R →
      e.walk (l.map (Trade.withCorrections F.corrections e.now)) W =
        (.ok (), { W with claimed := F.claimed ++ R })
  | [], V, W, hrun, _, _, _, _, hW => by
    have hVF : V = F := congrArg Prod.snd hrun
    subst hVF
    obtain ⟨C, S, U, K⟩ := W
    dsimp only at hW
    subst hW
    rfl
  | t :: l, V, W, hrun, hinv, hids, hrows, hstable, hW => by
    obtain ⟨hgoes, hrest⟩ := walk_cons_ok hrun
    have hid : t.id ∉ l.map (·.id) := (List.nodup_cons.mp hids).1
    have hinv' := hinv.step hid hclosed (hrows t List.mem_cons_self) (tradeStep_moves hdry t V)
    -- the claims and corrections after this trade are among the first run's final ones
    obtain ⟨pre, hpre⟩ := walk_claimed hdry l (e.tradeStep t V).2
    obtain ⟨later, hlater, hlaterids⟩ := walk_corrections hdry l (e.tradeStep t V).2
    rw [hrest] at hpre hlater
    -- a recorded claim on an id the first run holds is the first run's claim
    have hRstep : ∀ p ∈ (e.tradeStep t V).2.claimed,
        R.lookup p.1 = none ∨ R.lookup p.1 = some p.2 := by
      intro p hp
      cases hl : R.lookup p.1 with
      | none => exact .inl rfl
      | some o =>
        have hF : p ∈ F.claimed := by
          rw [hpre]
          exact List.mem_append_right _ hp
        have hsame := List.inj_on_of_nodup_map hkeys (hR _ (Desk.mem_of_lookup hl)) hF rfl
        rw [show o = p.2 from (Prod.ext_iff.mp hsame).2]
        exact .inr rfl
    -- the trade's row is in the store the earlier corrections left, so a write to it goes through
    have hwrite : ∀ (D : Decimal) closeId, ∃ s,
        V.store.updateReconciled e.now t.id D.toFloat closeId e.now = .ok s := by
      intro D closeId
      obtain ⟨r, hr, hrid⟩ := hrows t List.mem_cons_self
      rw [hinv.store]
      exact ⟨_, Store.updateReconciled_withCorrections (c := ⟨t.id, closeId, 0, D.toFloat, false⟩)
        hclosed hr hrid hinv.fresh_head D.toFloat_isNaN⟩
    have hpnl := (tradeStep_moves hdry t V).realizedPnl_withCorrections e.now hinv.fresh_head
      (fun c hc heq => hid (heq ▸ hlaterids c hc))
    rw [← hlater] at hpnl
    have hstep := tradeStep_again hdry (Trade.alike_withCorrections F.corrections e.now t) hW
      (hstable t List.mem_cons_self) hRstep hwrite hgoes hpnl
    rw [List.map_cons, walk_cons_of_goes (by rw [hstep]; exact hgoes), hstep]
    exact walk_again hdry hclosed hkeys hR l _ _ hrest hinv' (List.nodup_cons.mp hids).2
      (fun t' ht' => hrows t' (List.mem_cons_of_mem _ ht'))
      (fun t' ht' => hstable t' (List.mem_cons_of_mem _ ht')) rfl

end RunEnv

/-! ### Two runs at one clock time -/

namespace Desk

/-- The recorded claims of the listed trades after a run's corrections, from trades that held no
close id, are claims of the corrections. -/
theorem mem_recordedClaims_withCorrections {ts : List Trade} {cs : List Correction}
    {now : Instant} (hfresh : ∀ t ∈ ts, t.reconciledCloseId = "") {p : String × String}
    (hp : p ∈ recordedClaims (ts.map (Trade.withCorrections cs now))) :
    ∃ c ∈ cs, p = (c.closeId, c.tradeId) := by
  unfold recordedClaims at hp
  obtain ⟨t₂, ht₂, rfl⟩ := List.mem_map.mp hp
  obtain ⟨ht₂, hne⟩ := List.mem_filter.mp (List.mem_reverse.mp ht₂)
  obtain ⟨t, ht, rfl⟩ := List.mem_map.mp ht₂
  rcases Trade.withCorrections_eq_or cs now t with heq | ⟨c, hc, htid, heq⟩
  · rw [heq, hfresh t ht] at hne
    simp at hne
  · rw [heq]
    exact ⟨c, hc, by rw [htid]⟩

/-- Two runs at one clock time with the same options, history and funding, the first writing to
a ledger whose listed trades hold no close id: the second goes through, corrects no trade and
leaves every row as the first left it. This asks for listed trades with distinct ids, a clock
year of four digits so the rows written read back, and stable histories (`RunEnv.Stable`):
distinct close ids, size differences that are numbers, and a materiality threshold at least the
error of storing a derived figure rounded to eight places. -/
theorem reconcile_twice_corrects_nothing {d : Desk} (hd : d.Ready) {opts : RunOptions}
    (hdry : opts.dryRun = false) {ts : List Trade}
    (hts : d.store.closedSince opts.traderId (opts.since d.now) = .ok ts)
    (hfresh : ∀ t ∈ ts, t.reconciledCloseId = "") (hids : (ts.map (·.id)).Nodup)
    (hyear : d.now.hasFourDigitYear = true) (hstable : ∀ t ∈ ts, (d.runEnv opts).Stable t)
    {id₁ id₂ : String} (h₁ : (exec (reconcile id₁ opts) d).1.isOk = true) :
    ∃ rep, (exec (reconcile id₂ opts) (exec (reconcile id₁ opts) d).2).1 = .ok rep ∧
      rep.updated = 0 ∧ rep.corrections = [] ∧
      (exec (reconcile id₂ opts) (exec (reconcile id₁ opts) d).2).2.store.rows =
        (exec (reconcile id₁ opts) d).2.store.rows := by
  have hedry : (d.runEnv opts).dryRun = false := hdry
  have hclosed : d.store.closed = false := by
    have h := hts
    unfold Store.closedSince at h
    exact (Store.guard_bind_ok h).2
  have hrows : ∀ t ∈ ts, ∃ r ∈ d.store.rows, r.trade.id = t.id := fun t ht => by
    obtain ⟨r, hr, hrt⟩ := Store.closedSince_mem hts ht
    exact ⟨r, hr, by rw [hrt]⟩
  -- the first run is the walk from no claim, and it went through
  have hstart : RunTally.start ts d.store = ⟨[], d.store, 0, []⟩ := by
    simpa [RunTally.start, recordedClaims] using hfresh
  obtain ⟨rep₁, d₁, hx₁, -, -, hok₁⟩ := hd.reconcile_walk id₁ hts
  rw [hstart] at hx₁ hok₁
  rw [hx₁] at h₁ ⊢
  have hw₁ : ((d.runEnv opts).walk ts ⟨[], d.store, 0, []⟩).1 = .ok () := by
    revert h₁
    rcases ((d.runEnv opts).walk ts ⟨[], d.store, 0, []⟩).1 with f | u
    · simp [Except.map, Except.isOk, Except.toBool]
    · intro _
      rfl
  obtain ⟨hready₁, hsame₁, henv₁⟩ := hok₁ hw₁
  dsimp only
  generalize hF : ((d.runEnv opts).walk ts ⟨[], d.store, 0, []⟩).2 = F at hsame₁
  have hrun : (d.runEnv opts).walk ts ⟨[], d.store, 0, []⟩ = (.ok (), F) := Prod.ext hw₁ hF
  have hfirst := RunEnv.FirstRun.run hedry hclosed ts _ (RunEnv.FirstRun.start d.store ts) hids
    hrows
  rw [hF] at hfirst
  -- the second run lists the same trades, corrected, and reads what the first read
  have henv : d₁.runEnv opts = d.runEnv opts := henv₁ opts rfl
  have hnow : d₁.now = d.now := congrArg RunEnv.now henv
  have hts₂ : d₁.store.closedSince opts.traderId (opts.since d₁.now) =
      .ok (ts.map (Trade.withCorrections F.corrections (d.runEnv opts).now)) := by
    rw [hnow, Store.closedSince_congr (hsame₁.1.trans (congrArg Store.rows hfirst.store))
      (hsame₁.2.trans (congrArg Store.closed hfirst.store))]
    exact Store.closedSince_withCorrections F.corrections hyear hts
  obtain ⟨rep₂, d₂, hx₂, hu₂, hc₂, hok₂⟩ := hready₁.reconcile_walk id₂ hts₂
  rw [henv] at hx₂ hu₂ hc₂ hok₂
  -- the claims recorded on the corrected trades are the first run's
  have hR : ∀ p ∈ recordedClaims
      (ts.map (Trade.withCorrections F.corrections (d.runEnv opts).now)), p ∈ F.claimed :=
    fun p hp => by
    obtain ⟨c, hc, rfl⟩ := mem_recordedClaims_withCorrections hfresh hp
    exact hfirst.held c hc
  have hW := RunEnv.walk_again hedry hclosed hfirst.keys hR ts _
    (RunTally.start (ts.map (Trade.withCorrections F.corrections (d.runEnv opts).now)) d₁.store)
    hrun (RunEnv.FirstRun.start d.store ts) hids hrows hstable rfl
  rw [hW] at hx₂ hu₂ hc₂ hok₂
  refine ⟨rep₂, by rw [hx₂]; rfl, hu₂, hc₂, ?_⟩
  rw [hx₂]
  exact (hok₂ rfl).2.1.1

end Desk

/-- A closed long of one unit, opened at 100 and closed at 130, stored with no profit and no
close id. -/
def unreconciledRow : Row := Store.Row.ofNew (closedLong "a" "alice" 1790856000000 1790859600000)

/-- The long, and one venue position within the tolerances with a realized profit of 30 and a
fee of 0.5. -/
def unreconciledLedger : Desk :=
  { now := some 1790863200000,
    store := { rows := [unreconciledRow] },
    reconciler := Reconciler.new {} (.records [closeRecord]) none none }

/-- The first run corrects the long from 0 to 29.5; a second run at the same time corrects
nothing and leaves the rows as they are. -/
theorem rerun_after_one_correction :
    (Desk.exec (Desk.reconcile "r1" {}) unreconciledLedger).1.toOption.map (·.updated) = some 1 ∧
    ∃ rep, (Desk.exec (Desk.reconcile "r2" {})
        (Desk.exec (Desk.reconcile "r1" {}) unreconciledLedger).2).1 = .ok rep ∧
      rep.updated = 0 ∧ rep.corrections = [] ∧
      (Desk.exec (Desk.reconcile "r2" {})
          (Desk.exec (Desk.reconcile "r1" {}) unreconciledLedger).2).2.store.rows =
        (Desk.exec (Desk.reconcile "r1" {}) unreconciledLedger).2.store.rows := by
  -- the venue's one position, its derived figure 29.5, and 29.5 stored as a float
  have hstable : ∀ t ∈ [unreconciledRow.trade], (unreconciledLedger.runEnv {}).Stable t := by
    intro t ht rs hrs
    rw [List.mem_singleton] at ht
    subst ht
    obtain rfl : [closeRecord] = rs := Except.ok.inj hrs
    refine ⟨by decide, fun r hr => ?_⟩
    rw [List.mem_singleton] at hr
    subst hr
    refine ⟨by decide +kernel, fun x hx dv hd => ?_⟩
    obtain rfl : closeRecord.funding = x := Except.ok.inj hx
    obtain rfl : dv = ⟨295, -1⟩ := Except.ok.inj (hd.symm.trans (by decide +kernel))
    decide +kernel
  exact ⟨by decide +kernel,
    @Desk.reconcile_twice_corrects_nothing unreconciledLedger ⟨rfl, rfl, rfl⟩ {} rfl
      [unreconciledRow.trade] rfl (by decide +kernel) (by decide +kernel) (by decide) hstable
      "r1" "r2" (by decide +kernel)⟩

end TradeLedger
