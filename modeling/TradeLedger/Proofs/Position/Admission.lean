import TradeLedger.Position.Manager
import TradeLedger.Proofs.Position.OneLive
import Mathlib.Tactic.SplitIfs
/-!
# Admission keeps one live trade per trader and symbol

Every step of the position manager moves the desk by `Desk.Moves P`: its writes take trades out
of the live statuses or leave their status alone, and the snapshots it caches show every held
row. The second half needs an argument only where a repair leaves a live trade out, after
marking it merged, a write that cannot fail when no failure is staged. An admission that answers
with an outcome of a conflict check settles its trade: the trade left the live statuses, or the
check found no other held trade of the trader on the symbol and the snapshot was dropped.

## Main definitions

* `Desk.MarkFrame`: a frame that also holds across status changes and marks as merged.

## Theorems

* `Desk.snapshot_spec`: a snapshot moves the desk and shows every held row.
* `Desk.processTrade_admits`, `Desk.admitTrade_admits`: an answered admission settles its trade.
-/

namespace TradeLedger

namespace Desk

section Frames

variable {R : Desk → Desk → Prop} (hR : Frame R)
include hR

theorem Frame.keeps_onCooldown (symbol trader : String) : Keeps R (onCooldown symbol trader) := by
  intro d
  simp only [onCooldown, exec_bind, exec_get, exec_set, exec_pure]
  exact hR.cooldowns d _

theorem Frame.keeps_setCooldown (scope : Scope) (symbol trader : String) (len : Duration)
    (reason : String) : Keeps R (setCooldown scope symbol trader len reason) := by
  intro d
  simp only [setCooldown, exec_bind, exec_get, exec_set, exec_pure]
  exact hR.cooldowns d _

theorem Frame.keeps_mark (symbol : String) : Keeps R (mark symbol) := fun d => hR.refl d

end Frames

@[simp] theorem exec_mark (symbol : String) (d : Desk) :
    exec (mark symbol) d = (.ok (markPrice d.prices symbol), d) := rfl

@[simp] theorem exec_onCooldown (symbol trader : String) (d : Desk) :
    exec (onCooldown symbol trader) d =
      (.ok (d.cooldowns.check d.now symbol trader).2,
        { d with cooldowns := (d.cooldowns.check d.now symbol trader).1 }) := rfl

@[simp] theorem exec_setCooldown (scope : Scope) (symbol trader : String) (len : Duration)
    (reason : String) (d : Desk) :
    exec (setCooldown scope symbol trader len reason) d =
      (.ok (d.cooldowns.setFor d.now scope symbol trader len reason).2,
        { d with cooldowns := (d.cooldowns.setFor d.now scope symbol trader len reason).1 }) := rfl

theorem NewTrade.validate_none {nt : NewTrade} (h : nt.validate = none) :
    nt.tradeId ≠ "" ∧ nt.side.valid = true := by
  unfold NewTrade.validate at h
  split_ifs at h with h₁ h₂ h₃ h₄
  exact ⟨by simpa using h₁, by simpa using h₄⟩

/-- A frame that the position manager's marks keep: a trade moved out of the live statuses, or
marked merged. Admission is made of such marks, a merge and the loading of snapshots. -/
structure MarkFrame (R : Desk → Desk → Prop) : Prop extends Frame R where
  markStatus : ∀ {d : Desk} {s : Store} {now : Instant} {id : String} {status : TradeStatus}
    {reason : String}, status.live = false → d.store.markStatus now id status reason = .ok s →
      R d { d with store := s }
  markMerged : ∀ {d : Desk} {s : Store} {now : Instant} {id primary reason : String},
    d.store.markMerged now id primary reason = .ok s → R d { d with store := s }

namespace MarkFrame

variable {R : Desk → Desk → Prop} (hM : MarkFrame R)
include hM

variable {now : Instant} {id : String}

theorem keeps_markStatus {status : TradeStatus} {reason : String} (hst : status.live = false) :
    Keeps R (change .markStatus fun s => s.markStatus now id status reason) :=
  hM.keeps_change fun _ _ h => hM.markStatus hst h

theorem keeps_markMerged {primary reason : String} :
    Keeps R (change .markMerged fun s => s.markMerged now id primary reason) :=
  hM.keeps_change fun _ _ h => hM.markMerged h

theorem keeps_repairMerges (ts : List Trade) : Keeps R (repairMerges ts) := by
  unfold repairMerges
  dsimp only
  split
  · exact hM.keeps_pure _
  · refine hM.keeps_bind hM.keeps_clock fun now => hM.keeps_filterM fun t _ => ?_
    split
    · split
      · exact hM.keeps_pure _
      · exact hM.keeps_bind (hM.keeps_ignoring hM.keeps_markMerged) fun _ => hM.keeps_pure _
    · exact hM.keeps_pure _

theorem keeps_snapshot_of
    (hcache : ∀ d trader S, R d { d with snapshots := (trader, S) :: d.snapshots.filter (·.1 != trader) })
    (trader : String) : Keeps R (snapshot trader) := by
  unfold snapshot
  refine hM.keeps_bind hM.keeps_get fun d => ?_
  split
  · exact hM.keeps_pure _
  · exact hM.keeps_bind (hM.keeps_within _ (hM.keeps_read _ _)) fun ts =>
      hM.keeps_bind (hM.keeps_repairMerges ts) fun ts' =>
        hM.keeps_bind (keeps_modify fun d => hcache d _ _) fun _ => hM.keeps_pure _

/-- A mark of the new trade, then bookkeeping that leaves the store alone. -/
theorem keeps_markStatus_then {status : TradeStatus} {reason context trader : String}
    {f : Metrics → Metrics} {a : Outcome} (hst : status.live = false) :
    Keeps R (within context (change .markStatus fun s => s.markStatus now id status reason) >>=
      fun _ => invalidate trader >>= fun _ => tally f >>= fun _ => pure a) :=
  hM.keeps_bind (hM.keeps_within _ (hM.keeps_markStatus hst)) fun _ =>
    hM.keeps_bind (hM.keeps_invalidate _) fun _ =>
      hM.keeps_bind (hM.keeps_tally _) fun _ => hM.keeps_pure _

theorem keeps_reject (c : Conflict) (nt : NewTrade) : Keeps R (reject c nt) := by
  unfold reject
  exact hM.keeps_bind hM.keeps_clock fun _ => hM.keeps_markStatus_then rfl

theorem keeps_cooldownReject (nt : NewTrade) (c : Option Conflict) (cd : Cooldown) :
    Keeps R (cooldownReject nt c cd) := by
  unfold cooldownReject
  exact hM.keeps_bind hM.keeps_clock fun _ => hM.keeps_markStatus_then rfl

theorem keeps_checkFailed (nt : NewTrade) (cause : Fault) : Keeps R (checkFailed nt cause) := by
  unfold checkFailed
  refine hM.keeps_bind hM.keeps_get fun _ => ?_
  split
  · exact hM.keeps_bind hM.keeps_clock fun _ =>
      hM.keeps_bind (hM.keeps_ignoring (hM.keeps_markStatus rfl)) fun _ =>
        hM.keeps_bind (hM.keeps_invalidate _) fun _ =>
          hM.keeps_bind (hM.keeps_tally _) fun _ => hM.keeps_throw _
  · exact hM.keeps_bind (hM.keeps_tally _) fun _ => hM.keeps_pure _

end MarkFrame

/-- A conflict check keeps a frame that the loading of a snapshot keeps. -/
theorem Frame.keeps_checkConflict {R : Desk → Desk → Prop} (hR : Frame R) (trader : String)
    (hsnap : Keeps R (snapshot trader)) (symbol : String) (side : TradeSide)
    (newId : String) : Keeps R (checkConflict trader symbol side newId) := by
  unfold checkConflict
  dsimp only
  split
  · exact hR.keeps_throw_bind _ _
  · refine hR.keeps_bind hsnap fun snap =>
      hR.keeps_bind (hR.keeps_exact _) fun found => ?_
    split
    · exact hR.keeps_bind (hR.keeps_mark _) fun _ => hR.keeps_pure _
    · refine hR.keeps_bind (hR.keeps_exact _) fun found => ?_
      split
      · exact hR.keeps_bind (hR.keeps_mark _) fun _ => hR.keeps_pure _
      · exact hR.keeps_pure _

variable {P : List String} {d d' : Desk} {nt : NewTrade} {o : Outcome}

/-- The marks settle the store: they never bring a trade back to the live statuses. -/
theorem moves_markFrame : MarkFrame (Moves P) where
  toFrame := moves_frame
  markStatus := fun hst h => moves_store fun _ => Store.settles_markStatus hst h
  markMerged := fun h => moves_store fun _ => Store.settles_markMerged h

theorem keeps_applyMerge {now : Instant} {id : String} {size entry : Float} {absorbed : String} :
    Keeps (Moves P) (change .applyMerge fun s => s.applyMerge now id size entry absorbed) :=
  moves_frame.keeps_change fun _ _ h => moves_store fun _ => Store.settles_applyMerge h

/-- With no failure staged for a write, marking a stored trade of an open store merged goes
through and leaves every row of the trade merged. -/
theorem exec_markMerged {d : Desk} (hspares : d.plan.sparesWrites) {r : Row} {id : String}
    (hr : r ∈ d.store.rows) (hid : r.trade.id = id) (hopen : d.store.closed = false)
    (now : Instant) (primary reason : String) :
    ∃ s', d.store.markMerged now id primary reason = .ok s' ∧
      exec (change .markMerged fun s => s.markMerged now id primary reason) d =
        (.ok (), { d with plan := (d.plan.trip .markMerged).1, store := s' }) := by
  obtain ⟨s', hs'⟩ := Store.markMerged_ok hr hid hopen now primary reason
  refine ⟨s', hs', ?_⟩
  rw [exec_change, hspares.trip_eq_none rfl, hs']

/-- What a repair may rely on: the invariant, an open store, and a row for each trade. -/
def RepairReady (P : List String) (ts : List Trade) (d : Desk) : Prop :=
  OneLive P d ∧ d.store.closed = false ∧ ∀ t ∈ ts, ∃ r ∈ d.store.rows, r.trade.id = t.id

theorem RepairReady.of_moves {ts : List Trade} (h : RepairReady P ts d)
    (hm : Moves P d d') : RepairReady P ts d' := by
  obtain ⟨hs, hinv'⟩ := hm h.1
  refine ⟨hinv', hs.closed.trans h.2.1, fun t ht => ?_⟩
  obtain ⟨r, hr, hid⟩ := h.2.2 t ht
  obtain ⟨r', hr', hset⟩ := hs.exists_right hr
  exact ⟨r', hr', hset.id.trans hid⟩

/-- A repair leaves a trade out of its answer only after marking the trade merged. -/
theorem repairMerges_dropped {ts ts' : List Trade} (hready : RepairReady P ts d)
    (h : exec (repairMerges ts) d = (.ok ts', d')) :
    ∀ t ∈ ts, t ∈ ts' ∨ ∀ r ∈ d'.store.rows, r.trade.id = t.id → r.trade.status.live = false := by
  unfold repairMerges at h
  dsimp only at h
  split at h
  · cases h
    exact fun t ht => .inl ht
  · obtain ⟨now, d₁, h₁, h₂⟩ := exec_bind_ok h
    simp only [exec_clock, Prod.mk.injEq, Except.ok.injEq] at h₁
    obtain ⟨rfl, rfl⟩ := h₁
    refine moves_frame.filterM_dropped (fun t _ => ?_) (RepairReady P ts)
      (fun _ _ hd hm => hd.of_moves hm)
      (fun t d => ∀ r ∈ d.store.rows, r.trade.id = t.id → r.trade.status.live = false)
      (fun t e e' he hdead hm => ?_) (fun t ht e e' he hrun => ?_) hready h₂
    · -- each test keeps the desk moving
      split
      · split
        · exact moves_frame.keeps_pure _
        · exact moves_frame.keeps_bind
            (moves_frame.keeps_ignoring moves_markFrame.keeps_markMerged) fun _ =>
            moves_frame.keeps_pure _
      · exact moves_frame.keeps_pure _
    · -- a row out of the live statuses stays out
      intro r' hr' hid
      obtain ⟨r, hr, hset⟩ := ((hm he.1).1).exists_left hr'
      cases hl : r'.trade.status.live
      · rfl
      · exact absurd (hset.live hl) (by simp [hdead r hr (hset.id ▸ hid)])
    · -- a test that answers false has marked the trade merged
      split at hrun
      · split at hrun
        · cases hrun
        · rename_i pid p _ _ _
          obtain ⟨r, hr, hid⟩ := he.2.2 t ht
          obtain ⟨s', hs', hexec⟩ := exec_markMerged he.1.spares hr hid he.2.1 d.now pid
            ("repaired: absorbed by " ++ pid)
          rw [exec_bind, exec_ignoring, hexec] at hrun
          simp only [exec_pure, Prod.mk.injEq] at hrun
          obtain ⟨-, rfl⟩ := hrun
          intro r' hr' hid'
          rw [Store.markMerged_status hs' r' hr' hid']
          rfl
      · cases hrun

/-- Caching a snapshot that shows every held row of its trader keeps the invariant. -/
theorem OneLive.cache {d : Desk} (h : OneLive P d) {trader : String} {S : Snapshot}
    (hS : S.Covers P d.store trader) :
    OneLive P { d with snapshots := (trader, S) :: d.snapshots.filter (·.1 != trader) } :=
  { h with
    covered := by
      intro k S' hk
      change ((trader, S) :: d.snapshots.filter (·.1 != trader)).lookup k = some S' at hk
      rw [List.lookup_cons] at hk
      split at hk
      · rename_i hkey
        cases hk
        rw [beq_iff_eq.mp hkey]
        exact hS
      · rename_i hkey
        rw [List.lookup_filter_ne, if_neg (beq_eq_false_iff_ne.mp hkey)] at hk
        exact h.covered k S' hk }

/-- The snapshot of a repaired load shows every held row of the trader: a held row was live when
the trades were read, so the read gave its trade, and the repair kept the trade or marked it
merged. -/
theorem covers_of_repaired {s s₂ : Store} (hs : Store.Settles s s₂) {trader : String}
    {ts ts' : List Trade} (hlive : s.live trader = .ok ts)
    (hrep : ∀ t ∈ ts, t ∈ ts' ∨ ∀ r ∈ s₂.rows, r.trade.id = t.id → r.trade.status.live = false) :
    (Snapshot.ofTrades ts').Covers P s₂ trader := by
  intro r₂ hr₂ hheld htrader
  obtain ⟨r, hr, hset⟩ := hs.exists_left hr₂
  have hread : r.trade ∈ ts :=
    (Store.mem_live hlive).mpr ⟨r, hr, rfl, hset.trader ▸ htrader, hset.live hheld.1⟩
  rcases hrep r.trade hread with hkept | hdead
  · refine ⟨r.trade, ?_, hset.id.symm⟩
    rw [hset.symbol, hset.side]
    exact Snapshot.mem_group_ofTrades hkept
  · exact absurd hheld.1 (by simp [hdead r₂ hr₂ hset.id])

/-- A snapshot moves the desk, and the snapshot it answers shows every held row of the
trader. -/
theorem snapshot_spec (trader : String) (d : Desk) :
    Moves P d (exec (snapshot trader) d).2 ∧
      (OneLive P d → ∀ S, (exec (snapshot trader) d).1 = .ok S →
        S.Covers P (exec (snapshot trader) d).2.store trader) := by
  unfold snapshot
  rw [exec_bind, exec_get]
  dsimp only
  split
  · -- cached
    rename_i S hS
    exact ⟨moves_frame.refl d, fun hinv S' h => by cases h; exact hinv.covered trader S hS⟩
  · -- loaded: the live trades read, repaired, and the snapshot of what is left cached
    rw [exec_bind, exec_within, exec_read]
    rcases htrip : (d.plan.trip .listLive).2 with _ | f
    · rcases hlive : d.store.live trader with f | ts
      · exact ⟨moves_frame.trip d _, fun _ _ h => by cases h⟩
      · dsimp only
        rw [exec_bind]
        have hmoves₁ : Moves P d { d with plan := (d.plan.trip .listLive).1 } := moves_frame.trip d _
        rcases hrep : exec (repairMerges ts) { d with plan := (d.plan.trip .listLive).1 } with
          ⟨_ | ts', d₂⟩
        · have hmoves₂ : Moves P _ _ :=
            moves_markFrame.keeps_repairMerges ts { d with plan := (d.plan.trip .listLive).1 }
          rw [hrep] at hmoves₂
          exact ⟨moves_frame.trans hmoves₁ hmoves₂, fun _ _ h => by cases h⟩
        · have hmoves₂ : Moves P _ _ :=
            moves_markFrame.keeps_repairMerges ts { d with plan := (d.plan.trip .listLive).1 }
          rw [hrep] at hmoves₂
          simp only [exec_bind, exec_modify, exec_pure]
          -- the repair starts where the invariant holds, and the snapshot it leaves shows every
          -- held row
          have hcovers : OneLive P d → (Snapshot.ofTrades ts').Covers P d₂.store trader := by
            intro hinv
            obtain ⟨hs₁, hinv₁⟩ := hmoves₁ hinv
            have hready : RepairReady P ts { d with plan := (d.plan.trip .listLive).1 } :=
              ⟨hinv₁, Store.live_open hlive, fun t ht => by
                obtain ⟨r, hr, rfl, -⟩ := (Store.mem_live hlive).mp ht
                exact ⟨r, hr, rfl⟩⟩
            exact covers_of_repaired (hs₁.trans (hmoves₂ hinv₁).1) hlive
              (repairMerges_dropped hready hrep)
          refine ⟨fun hinv => ?_, fun hinv S h => ?_⟩
          · obtain ⟨hs, hinv₂⟩ := moves_frame.trans hmoves₁ hmoves₂ hinv
            exact ⟨hs, hinv₂.cache (hcovers hinv)⟩
          · cases h
            exact hcovers hinv
    · exact ⟨moves_frame.trip d _, fun _ _ h => by cases h⟩

theorem keeps_snapshot (trader : String) : Keeps (Moves P) (snapshot trader) :=
  fun d => (snapshot_spec trader d).1

/-- The shape of a conflict check that answered: it read a snapshot of a named trader, asked
it for the position on the side and then on the other side, and changed nothing after the
snapshot. -/
theorem checkConflict_ok {trader symbol : String} {side : TradeSide} {newId : String}
    {c : Option Conflict}
    (h : exec (checkConflict trader symbol side newId) d = (.ok c, d')) :
    trader.isEmpty = false ∧ ∃ S, exec (snapshot trader) d = (.ok S, d') ∧
      ((S.position trader symbol side newId = .ok none ∧
          S.position trader symbol side.opposite newId = .ok none ∧ c = none) ∨
        ∃ c', c = some c' ∧ (c'.action = .merge ∨ c'.action = .reject)) := by
  unfold checkConflict at h
  dsimp only at h
  split at h
  · simp at h
  · rename_i hne
    obtain ⟨S, d₁, h₁, h₂⟩ := exec_bind_ok h
    obtain ⟨found, d₂, h₃, h₄⟩ := exec_bind_ok h₂
    obtain ⟨hpos, rfl⟩ := exec_exact_ok h₃
    refine ⟨by simpa using hne, S, ?_⟩
    split at h₄
    · simp only [exec_bind, exec_mark, exec_pure, Prod.mk.injEq, Except.ok.injEq] at h₄
      obtain ⟨rfl, rfl⟩ := h₄
      exact ⟨h₁, .inr ⟨_, rfl, .inl rfl⟩⟩
    · obtain ⟨found', d₃, h₅, h₆⟩ := exec_bind_ok h₄
      obtain ⟨hpos', rfl⟩ := exec_exact_ok h₅
      split at h₆
      · simp only [exec_bind, exec_mark, exec_pure, Prod.mk.injEq, Except.ok.injEq] at h₆
        obtain ⟨rfl, rfl⟩ := h₆
        exact ⟨h₁, .inr ⟨_, rfl, .inr rfl⟩⟩
      · simp only [exec_pure, Prod.mk.injEq] at h₆
        obtain ⟨h₇, rfl⟩ := h₆
        exact ⟨h₁, .inl ⟨hpos, hpos', (Except.ok.inj h₇).symm⟩⟩

/-- A conflict check that finds nothing has seen every held row of the trader on the symbol:
each is the new trade itself. -/
theorem checkConflict_none {trader symbol : String} {side : TradeSide} {newId : String}
    (hinv : OneLive P d) (hside : side.valid = true)
    (h : exec (checkConflict trader symbol side newId) d = (.ok none, d')) :
    ∀ r ∈ d'.store.rows, Row.Held P r → r.trade.traderId = trader →
      String.toUpperSimple r.trade.symbol = String.toUpperSimple symbol → r.trade.id = newId := by
  obtain ⟨-, S, hsnap, hfound⟩ := checkConflict_ok h
  rcases hfound with ⟨hsame, hopp, -⟩ | ⟨c, hc, -⟩
  · have hspec := snapshot_spec (P := P) trader d
    rw [hsnap] at hspec
    have hinv' := (hspec.1 hinv).2
    have hcov := hspec.2 hinv S rfl
    intro r hr hheld htrader hsym
    obtain ⟨t, ht, hid⟩ := hcov r hr hheld htrader
    obtain ⟨hvalid, hne⟩ := hinv'.valid_of_mem hr hheld.2
    rw [groupKey_eq_of_upper hsym] at ht
    -- the row is on the side asked or on the other one
    have hgone : t.id = newId ∨ t.id = "" := by
      rcases TradeSide.eq_or_eq_opposite hvalid hside with hs | hs
      · rw [hs] at ht
        exact Snapshot.position_eq_none hsame t ht
      · rw [hs] at ht
        exact Snapshot.position_eq_none hopp t ht
    rw [← hid]
    exact hgone.resolve_right (hid ▸ hne)
  · cases hc

section Resolutions

theorem keeps_merge (c : Conflict) (nt : NewTrade) : Keeps (Moves P) (merge c nt) := by
  unfold merge
  dsimp only
  refine moves_frame.keeps_bind moves_frame.keeps_clock fun now =>
    moves_frame.keeps_bind (moves_frame.keeps_within _ (moves_frame.keeps_read _ _)) fun primary =>
      moves_frame.keeps_bind (moves_frame.keeps_exact _) fun ⟨size, entry⟩ => ?_
  refine moves_frame.keeps_bind (moves_frame.keeps_within _ keeps_applyMerge) fun _ =>
    moves_frame.keeps_bind (moves_frame.keeps_attempt moves_markFrame.keeps_markMerged)
      fun marked => ?_
  split
  · exact moves_frame.keeps_bind (moves_frame.keeps_invalidate _) fun _ =>
      moves_frame.keeps_throw_bind _ _
  · exact moves_frame.keeps_bind (moves_frame.keeps_setCooldown _ _ _ _ _) fun _ =>
      moves_frame.keeps_bind (moves_frame.keeps_invalidate _) fun _ =>
        moves_frame.keeps_bind (moves_frame.keeps_tally _) fun _ => moves_frame.keeps_pure _

theorem keeps_resolveConflict {c : Conflict} (hc : c.action = .merge ∨ c.action = .reject)
    (nt : NewTrade) : Keeps (Moves P) (resolveConflict (some c) nt) := by
  unfold resolveConflict
  rcases hc with hc | hc <;> simp only [hc]
  · exact keeps_merge c nt
  · exact moves_markFrame.keeps_reject c nt

theorem merge_ok {c : Conflict}
    (h : exec (merge c nt) d = (.ok o, d')) :
    ∀ r ∈ d'.store.rows, r.trade.id = nt.tradeId → r.trade.status = .merged := by
  unfold merge at h
  dsimp only at h
  obtain ⟨now, d₁, -, h⟩ := exec_bind_ok h
  obtain ⟨primary, d₂, -, h⟩ := exec_bind_ok h
  obtain ⟨⟨size, entry⟩, d₃, -, h⟩ := exec_bind_ok h
  obtain ⟨⟨⟩, d₄, -, h⟩ := exec_bind_ok h
  obtain ⟨marked, d₅, h₅, h⟩ := exec_bind_ok h
  split at h
  · obtain ⟨⟨⟩, d₆, -, h⟩ := exec_bind_ok h
    simp at h
  · -- the mark went through, and what follows leaves the store alone
    have hs := exec_change_ok (exec_attempt_ok h₅)
    simp only [exec_bind, exec_setCooldown, exec_invalidate, exec_tally, exec_pure,
      Prod.mk.injEq] at h
    obtain ⟨-, rfl⟩ := h
    exact Store.markMerged_status hs

/-- A rejection that answered has marked the new trade with its status: the mark is followed
only by bookkeeping that leaves the store alone. -/
theorem markStatus_then_ok {now : Instant} {id context : String} {status : TradeStatus}
    {reason : String} {trader : String} {f : Metrics → Metrics} {a o : Outcome}
    (h : exec (within context (change .markStatus fun s => s.markStatus now id status reason) >>=
      fun _ => invalidate trader >>= fun _ => tally f >>= fun _ => pure a) d = (.ok o, d')) :
    ∀ r ∈ d'.store.rows, r.trade.id = id → r.trade.status = status := by
  obtain ⟨⟨⟩, d₁, h₁, h⟩ := exec_bind_ok h
  have hs := exec_change_ok (exec_within_ok h₁)
  simp only [exec_bind, exec_invalidate, exec_tally, exec_pure, Prod.mk.injEq] at h
  obtain ⟨-, rfl⟩ := h
  exact Store.markStatus_status hs

theorem reject_ok {c : Conflict}
    (h : exec (reject c nt) d = (.ok o, d')) :
    ∀ r ∈ d'.store.rows, r.trade.id = nt.tradeId → r.trade.status = .rejected := by
  unfold reject at h
  dsimp only at h
  obtain ⟨now, d₁, -, h⟩ := exec_bind_ok h
  exact markStatus_then_ok h

theorem cooldownReject_ok {c : Option Conflict} {cd : Cooldown}
    (h : exec (cooldownReject nt c cd) d = (.ok o, d')) :
    ∀ r ∈ d'.store.rows, r.trade.id = nt.tradeId → r.trade.status = .cooldownRejected := by
  unfold cooldownReject at h
  dsimp only at h
  obtain ⟨now, d₁, -, h⟩ := exec_bind_ok h
  exact markStatus_then_ok h

/-- Admission answers after a failed conflict check only with an unchecked admission. -/
theorem checkFailed_ok {cause : Fault}
    (h : exec (checkFailed nt cause) d = (.ok o, d')) : o.degraded = true := by
  unfold checkFailed at h
  obtain ⟨d₀, d₁, -, h⟩ := exec_bind_ok h
  split at h
  · -- failing closed ends in a failure
    obtain ⟨_, _, -, h⟩ := exec_bind_ok h
    obtain ⟨_, _, -, h⟩ := exec_bind_ok h
    obtain ⟨_, _, -, h⟩ := exec_bind_ok h
    obtain ⟨_, _, -, h⟩ := exec_bind_ok h
    cases h
  · simp only [exec_bind, exec_tally, exec_pure, Prod.mk.injEq, Except.ok.injEq] at h
    rw [← h.1]

/-- A merge or a rejection that answered has taken the new trade out of the live statuses. -/
theorem resolveConflict_ok {c : Conflict} (hc : c.action = .merge ∨ c.action = .reject)
    (h : exec (resolveConflict (some c) nt) d = (.ok o, d')) :
    ∀ r ∈ d'.store.rows, r.trade.id = nt.tradeId → r.trade.status.live = false := by
  unfold resolveConflict at h
  intro r hr hid
  rcases hc with hc | hc <;> simp only [hc] at h
  · rw [merge_ok h r hr hid]
    rfl
  · rw [reject_ok h r hr hid]
    rfl

end Resolutions

theorem keeps_processTrade (nt : NewTrade) : Keeps (Moves P) (processTrade nt) := by
  unfold processTrade
  dsimp only
  split
  · exact moves_frame.keeps_throw_bind _ _
  · refine moves_frame.keeps_bind (moves_frame.keeps_tally _) fun _ =>
      moves_frame.keeps_bind (moves_frame.keeps_onCooldown _ _) fun _ => ?_
    split
    · exact moves_markFrame.keeps_cooldownReject _ _ _
    · refine moves_frame.keeps_bind_ok
        (moves_frame.keeps_attempt (moves_frame.keeps_checkConflict _ (keeps_snapshot _) _ _ _))
        fun res d d' hres => ?_
      rcases res with f | (_ | c)
      · exact moves_markFrame.keeps_checkFailed _ _ d'
      · exact moves_frame.keeps_bind (moves_frame.keeps_invalidate _)
          (fun _ => moves_frame.keeps_pure _) d'
      · -- a conflict found merges or rejects
        obtain ⟨-, S, -, hfound⟩ := checkConflict_ok (exec_attempt_ok hres)
        rcases hfound with ⟨-, -, hnone⟩ | ⟨c', hc', hact⟩
        · cases hnone
        · cases hc'
          exact keeps_resolveConflict hact nt d'

/-- An admission that answers with a checked outcome settles its trade: the stored trade it was
given, with the trade's own trader, symbol and side, joins the held ones. -/
theorem processTrade_admits {r : Row}
    (hinv : OneLive P d) (hr : r ∈ d.store.rows) (hid : r.trade.id = nt.tradeId)
    (htrader : r.trade.traderId = nt.traderId) (hsymbol : r.trade.symbol = nt.symbol)
    (hside : r.trade.side = nt.side)
    (h : exec (processTrade nt) d = (.ok o, d')) (hchecked : o.degraded = false) :
    OneLive (nt.tradeId :: P) d' := by
  obtain ⟨hs, hinv'⟩ := (keeps_processTrade nt).of_exec h hinv
  obtain ⟨r', hr', hset⟩ := hs.exists_right hr
  unfold processTrade at h
  dsimp only at h
  split at h
  · simp at h
  · rename_i hnot
    obtain ⟨hne, hvalid⟩ := NewTrade.validate_none (by
      cases hv : nt.validate with
      | none => rfl
      | some f => exact absurd hv (hnot f))
    have hvalid' : r'.trade.side.valid = true := by rw [hset.side, hside]; exact hvalid
    have hid' : r'.trade.id = nt.tradeId := hset.id.trans hid
    -- the trade taken out of the live statuses is admitted as it is
    have settled : (∀ r'' ∈ d'.store.rows, r''.trade.id = nt.tradeId →
        r''.trade.status.live = false) → OneLive (nt.tradeId :: P) d' :=
      hinv'.cons_of_not_live hr' hid' hvalid' hne
    obtain ⟨⟨⟩, d₁, h₁, h⟩ := exec_bind_ok h
    obtain ⟨cooling, d₂, h₂, h⟩ := exec_bind_ok h
    have hinv₂ : OneLive P d₂ :=
      ((moves_frame.trans ((moves_frame.keeps_tally _).of_exec h₁)
        ((moves_frame.keeps_onCooldown _ _).of_exec h₂)) hinv).2
    split at h
    · exact settled fun r'' hr'' hid'' => by rw [cooldownReject_ok h r'' hr'' hid'']; rfl
    · obtain ⟨res, d₃, h₃, h⟩ := exec_bind_ok h
      rcases res with f | (_ | c)
      · exact absurd (checkFailed_ok h) (by simp [hchecked])
      · -- no conflict: the trade stays live, alone on its symbol, and its trader's snapshot
        -- is dropped
        simp only [exec_bind, exec_invalidate, exec_pure, Prod.mk.injEq] at h
        obtain ⟨-, rfl⟩ := h
        have halone := checkConflict_none hinv₂ hvalid (exec_attempt_ok h₃)
        refine hid' ▸ hinv'.cons_of_alone hr' hvalid' (hid' ▸ hne) (fun r'' hr'' hheld hsame => ?_) ?_
        · rw [hid']
          exact halone r'' hr'' hheld (hsame.1.trans (hset.trader.trans htrader))
            (hsame.2.trans (by rw [hset.symbol, hsymbol]))
        · simp [Desk.drop, List.lookup_filter_ne, hset.trader, htrader]
      · obtain ⟨-, S, -, hfound⟩ := checkConflict_ok (exec_attempt_ok h₃)
        rcases hfound with ⟨-, -, hnone⟩ | ⟨c', hc', hact⟩
        · cases hnone
        · cases hc'
          exact settled (resolveConflict_ok hact h)

theorem keeps_admitTrade (id : String) : Keeps (Moves P) (admitTrade id) := by
  unfold admitTrade
  refine moves_frame.keeps_bind (moves_frame.keeps_read _ _) fun t => ?_
  dsimp only
  split
  · exact moves_frame.keeps_throw_bind _ _
  · exact keeps_processTrade _

/-- An admission refuses without writing, or it processes the stored trade, which is pending, on
the desk its read left. -/
theorem admitTrade_cases {id : String} {res : Except Fault Outcome}
    (h : exec (admitTrade id) d = (res, d')) :
    (∃ f, res = .error f) ∧ d'.store = d.store ∨
      ∃ r ∈ d.store.rows, r.trade.id = id ∧ r.trade.status = .pending ∧
        exec (processTrade (NewTrade.ofTrade r.trade)) { d with plan := (d.plan.trip .getTrade).1 } =
          (res, d') := by
  unfold admitTrade at h
  rw [exec_bind, exec_read] at h
  rcases htrip : (d.plan.trip .getTrade).2 with _ | f
  · rw [htrip] at h
    rcases hget : d.store.get id with f | t
    · -- the trade is not stored
      rw [hget] at h
      cases h
      exact .inl ⟨⟨f, rfl⟩, rfl⟩
    · rw [hget] at h
      dsimp only at h
      obtain ⟨r, hfind, rfl⟩ := Store.get_ok hget
      obtain ⟨hr, hrid⟩ := Store.find?_some hfind
      split at h
      · -- a trade that is not pending is refused
        simp only [exec_bind, exec_throw, Prod.mk.injEq] at h
        obtain ⟨rfl, rfl⟩ := h
        exact .inl ⟨⟨_, rfl⟩, rfl⟩
      · rename_i hpending
        exact .inr ⟨r, hr, hrid, by simpa using hpending, h⟩
  · -- the read met its staged failure
    rw [htrip] at h
    cases h
    exact .inl ⟨⟨f, rfl⟩, rfl⟩

/-- An admission of a stored trade that answers with a checked outcome settles the trade. -/
theorem admitTrade_admits {id : String} (hinv : OneLive P d)
    (h : exec (admitTrade id) d = (.ok o, d')) (hchecked : o.degraded = false) :
    OneLive (id :: P) d' := by
  rcases admitTrade_cases h with ⟨⟨f, hf⟩, -⟩ | ⟨r, hr, hrid, -, h⟩
  · cases hf
  · have hinv₁ : OneLive P _ := (moves_frame.trip d .getTrade hinv).2
    have := processTrade_admits hinv₁ hr rfl rfl rfl rfl h hchecked
    simpa [NewTrade.ofTrade, hrid] using this

end Desk

end TradeLedger
