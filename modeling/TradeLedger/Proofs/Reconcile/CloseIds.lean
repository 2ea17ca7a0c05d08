import TradeLedger.Reconcile.Run
import TradeLedger.Proofs.Desk.Run
import TradeLedger.Proofs.Ledger.Rows
import Mathlib.Logic.Relation
/-!
# A close id stays with one trade

A reconciliation run matches closed trades to the venue's closed positions and records a
position's close id on the trade whose profit it corrects; a close id should go to one trade.
The run keeps a map of claimed close ids, starting from those recorded on the trades it lists; a
record is usable for a trade only when its id is unclaimed or already the trade's, and each
match claims its id.

The map knows only the listed trades, the closed trades of the run's trader filter within its
lookback. A close id recorded outside that selection is free for a trade of the run, which then
records it too. A run that covers the ledger (lists a holder of every held close id) starts from
the invariant `Desk.ClaimsHeld`, with every held close id pinned to its trade; each step keeps
it, as a usable claim never takes an id from another trade. A close id its holder is moved off
stays claimed only to the end of the run.

## Main definitions

* `Store.CloseIdsDistinct`: no two trades hold one close id.
* `RunOptions.covers`: a run lists a holder of every held close id.
* `Desk.CoveringRun`: one run that covers the ledger it starts from.

## Theorems

* `Desk.reconcile_keeps_close_ids`: one covering run keeps close ids distinct and in place.
* `Desk.runs_keep_close_ids`: the same for the next run after any covering runs.
* `close_id_reused_across_traders`: a run for another trader records a held id again.
-/

namespace TradeLedger

/-! ### Close ids on the rows -/

namespace Store

/-- Rows that hold one non-empty close id are rows of one trade. -/
def CloseIdsDistinct (s : Store) : Prop :=
  ∀ r₁ ∈ s.rows, ∀ r₂ ∈ s.rows, r₁.trade.reconciledCloseId ≠ "" →
    r₁.trade.reconciledCloseId = r₂.trade.reconciledCloseId → r₁.trade.id = r₂.trade.id

instance : DecidablePred CloseIdsDistinct := fun s =>
  inferInstanceAs (Decidable (∀ r₁ ∈ s.rows, ∀ r₂ ∈ s.rows, r₁.trade.reconciledCloseId ≠ "" →
    r₁.trade.reconciledCloseId = r₂.trade.reconciledCloseId → r₁.trade.id = r₂.trade.id))

/-- Every non-empty close id a row holds is claimed, in `claimed`, for the row's trade. -/
def CloseIdsClaimed (s : Store) (claimed : List (String × String)) : Prop :=
  ∀ r ∈ s.rows, r.trade.reconciledCloseId ≠ "" →
    claimed.lookup r.trade.reconciledCloseId = some r.trade.id

/-- Every close id a row of `s` holds is held in `s'` by no other trade. -/
def KeepsCloseIds (s s' : Store) : Prop :=
  ∀ r ∈ s.rows, r.trade.reconciledCloseId ≠ "" → ∀ r' ∈ s'.rows,
    r'.trade.reconciledCloseId = r.trade.reconciledCloseId → r'.trade.id = r.trade.id

/-- Each close id a row holds, with the row's trade. -/
def heldPins (s : Store) : List (String × String) :=
  (s.rows.filter (·.trade.reconciledCloseId != "")).map fun r =>
    (r.trade.reconciledCloseId, r.trade.id)

variable {s s' : Store} {claimed : List (String × String)}

theorem CloseIdsDistinct.keeps (h : s.CloseIdsDistinct) (hrows : s'.rows = s.rows) :
    s.KeepsCloseIds s' := by
  intro r hr hne r' hr' heq
  exact h r' (hrows ▸ hr') r hr (heq ▸ hne) heq

theorem CloseIdsClaimed.heldPins (h : s.CloseIdsClaimed claimed) :
    ∀ p ∈ s.heldPins, claimed.lookup p.1 = some p.2 := by
  intro p hp
  obtain ⟨r, hr, rfl⟩ := List.mem_map.1 hp
  obtain ⟨hr, hne⟩ := List.mem_filter.1 hr
  exact h r hr (by simpa using hne)

/-- Claims that still hold the ids `s` held keep those ids off other trades of `s'`. -/
theorem CloseIdsClaimed.keeps (h : s'.CloseIdsClaimed claimed)
    (hpins : ∀ p ∈ s.heldPins, claimed.lookup p.1 = some p.2) : s.KeepsCloseIds s' := by
  intro r hr hne r' hr' heq
  have hpin := hpins (r.trade.reconciledCloseId, r.trade.id)
    (List.mem_map.2 ⟨r, List.mem_filter.2 ⟨hr, by simpa using hne⟩, rfl⟩)
  have hclaim := h r' hr' (heq ▸ hne)
  rw [heq, hpin] at hclaim
  exact (Option.some.inj hclaim).symm

/-- A map claims each id for one trade, so ids claimed for their rows are distinct. -/
theorem CloseIdsClaimed.distinct (h : s.CloseIdsClaimed claimed) : s.CloseIdsDistinct := by
  intro r₁ h₁ r₂ h₂ hne heq
  have e₁ := h r₁ h₁ hne
  have e₂ := h r₂ h₂ (heq ▸ hne)
  rw [heq, e₂] at e₁
  exact (Option.some.inj e₁).symm

theorem CloseIdsClaimed.of_rows (h : s.CloseIdsClaimed claimed) (hrows : s'.rows = s.rows) :
    s'.CloseIdsClaimed claimed := by
  intro r hr
  exact h r (hrows ▸ hr)

/-- Recording a close id on a trade it is claimed for keeps every row's id claimed. -/
theorem CloseIdsClaimed.updateReconciled {now stamp : Instant} {id closeId : String} {pnl : Float}
    (h : s.CloseIdsClaimed claimed) (hc : claimed.lookup closeId = some id)
    (hw : s.updateReconciled now id pnl closeId stamp = .ok s') : s'.CloseIdsClaimed claimed := by
  intro r' hr' hne
  rw [write_ok (updateReconciled_ok hw).1] at hr'
  rcases mem_modify hr' with ⟨r, -, hid, rfl⟩ | ⟨hr', -⟩
  · -- the rewritten row holds the new id, claimed for its own trade
    simpa [Row.touch, hid] using hc
  · exact h r' hr' hne

theorem execute_rows {s' : Store} {st : Statement} (h : s.execute st = some s') :
    s'.rows = s.rows := by
  cases st <;> simp only [execute] at h
  · split at h
    · cases h
    · cases h
      rfl
  · split at h
    · cases h
    · cases h
      rfl
  · cases h
    rfl
  · cases h

theorem executeAll_rows : ∀ {s s' : Store} {ops : List (WriteOp Statement)},
    s.executeAll ops = .ok s' → s'.rows = s.rows
  | s, s', [], h => by
    cases h
    rfl
  | s, s', op :: ops, h => by
    simp only [executeAll] at h
    split at h
    · rename_i s₁ h₁
      rw [executeAll_rows h, execute_rows h₁]
    · cases h

theorem commitBatch_rows (ops : List (WriteOp Statement)) (s : Store) :
    (commitBatch ops s).1.rows = s.rows := by
  unfold commitBatch runBatch
  split
  · rename_i s' h
    split at h
    · cases h
    · exact executeAll_rows h
  · rfl

end Store

/-- A batch writer's write leaves what every batch it runs leaves. -/
theorem BatchWriter.write_preserves {α σ : Type} (P : σ → Prop) (w : BatchWriter α)
    (run : BatchRunner α σ) (s : σ) (op : WriteOp α) (hrun : ∀ ops s, P s → P (run ops s).1)
    (hs : P s) : P (w.write run s op).2 := by
  unfold write
  split
  · exact hs
  · dsimp only
    split
    · unfold flush
      split
      · exact hs
      · dsimp only
        split <;> rename_i h <;> exact h ▸ hrun _ s hs
    · exact hs

/-! ### Claims -/

/-- The first trade of a run listing a close id is a later claim than the ones after it. -/
theorem lookup_recordedClaims {trades : List Trade} {c tid : String}
    (h : (Desk.recordedClaims trades).lookup c = some tid) :
    ∃ t ∈ trades, t.reconciledCloseId = c ∧ t.id = tid := by
  obtain ⟨l₁, l₂, hl, -⟩ := List.lookup_eq_some_iff.mp h
  have hmem : (c, tid) ∈ Desk.recordedClaims trades := by
    rw [hl]
    exact List.mem_append_right _ List.mem_cons_self
  unfold Desk.recordedClaims at hmem
  obtain ⟨t, ht, heq⟩ := List.mem_map.mp hmem
  obtain ⟨ht, -⟩ := List.mem_filter.mp (List.mem_reverse.mp ht)
  simp only [Prod.mk.injEq] at heq
  exact ⟨t, ht, heq.1, heq.2⟩

/-- A listed trade's close id is claimed by the recorded claims. -/
theorem lookup_recordedClaims_isSome {trades : List Trade} {t : Trade} (ht : t ∈ trades)
    (hne : t.reconciledCloseId ≠ "") :
    ((Desk.recordedClaims trades).lookup t.reconciledCloseId).isSome := by
  rw [List.lookup_isSome_iff]
  refine ⟨(t.reconciledCloseId, t.id), ?_, by simp⟩
  unfold Desk.recordedClaims
  exact List.mem_map.mpr ⟨t, List.mem_reverse.mpr (List.mem_filter.mpr ⟨ht, by simpa using hne⟩),
    rfl⟩

/-- The start of the window a run started at `now` lists closed trades from: the lookback back
from `now`, a day when the lookback is not positive. -/
def RunOptions.since (opts : RunOptions) (now : Instant) : Instant :=
  now.addMs (-Duration.toMs
    (if opts.lookback ≤ 0 then 24 * 3600 * Duration.perSecond else opts.lookback))

/-- Whether a run started on `d` lists, for each close id a row holds, a trade holding it. A
listing that fails covers, since the run then stops before it changes anything. -/
def RunOptions.covers (opts : RunOptions) (d : Desk) : Bool :=
  match d.store.closedSince opts.traderId (opts.since d.now) with
  | .ok ts => d.store.rows.all fun r =>
      r.trade.reconciledCloseId == "" || ts.any (·.reconciledCloseId == r.trade.reconciledCloseId)
  | .error _ => true

/-- Two corrections of a report with one close id correct one trade. -/
def Report.CloseIdsOneTrade (rep : Report) : Prop :=
  ∀ x ∈ rep.corrections, ∀ y ∈ rep.corrections, x.closeId = y.closeId → x.tradeId = y.tradeId

theorem Store.closedSince_mem {s : Store} {trader : String} {since : Instant} {ts : List Trade}
    (h : s.closedSince trader since = .ok ts) {t : Trade} (ht : t ∈ ts) :
    ∃ r ∈ s.rows, r.trade = t := by
  unfold Store.closedSince at h
  obtain ⟨h, -⟩ := Store.guard_bind_ok h
  rw [Store.scanAll_ok h] at ht
  obtain ⟨r, hr, rfl⟩ := List.mem_map.mp ht
  exact ⟨r, (List.mem_filter.mp ((stableSort_perm _ _).mem_iff.mp hr)).1, rfl⟩

namespace Desk

theorem usable_lookup {claimed : List (String × String)} {tid c : String}
    (h : usable claimed tid c = true) : claimed.lookup c = none ∨ claimed.lookup c = some tid := by
  unfold usable at h
  split at h
  · rename_i hl
    exact .inl hl
  · rename_i owner hl
    exact .inr (by rw [hl, beq_iff_eq.mp h])

/-- A usable claim keeps every id that is already claimed with its trade. -/
theorem lookup_cons_of_usable {claimed : List (String × String)} {tid c k x : String}
    (hu : usable claimed tid c = true) (hk : claimed.lookup k = some x) :
    ((c, tid) :: claimed).lookup k = some x := by
  rw [List.lookup_cons]
  by_cases hkc : k = c
  · subst hkc
    rcases usable_lookup hu with hn | hs
    · rw [hn] at hk
      cases hk
    · rw [hs] at hk
      simp [← Option.some.inj hk]
  · have hne : (k == c) = false := by simpa using hkc
    simp only [hne, hk]

/-- The best match of a fold over candidates is one of the candidates. -/
theorem bestMatch_rankOf {t : Trade} {records : List Record} {tol : Tolerance}
    {ok : String → Bool} {r : Record} (h : bestMatch t records tol ok = some r) :
    ∃ k, rankOf t tol ok r = some k := by
  unfold bestMatch at h
  simp only at h
  obtain ⟨⟨b, k⟩, hres, rfl⟩ := Option.map_eq_some_iff.mp h
  clear h
  refine ⟨k, ?_⟩
  -- every accumulator of the fold holds a candidate with its rank
  have hstart : ∀ b k, (none : Option (Record × MatchRank)) = some (b, k) →
      rankOf t tol ok b = some k := fun _ _ h => by cases h
  generalize (none : Option (Record × MatchRank)) = init at hres hstart
  induction records generalizing init with
  | nil => exact hstart b k hres
  | cons a l ih =>
    refine ih _ hres fun b' k' hbk => ?_
    dsimp only at hbk
    rcases ha : rankOf t tol ok a with _ | ka <;> rw [ha] at hbk
    · exact hstart b' k' hbk
    · rcases init with _ | ⟨b'', k''⟩
      · cases hbk
        exact ha
      · dsimp only at hbk
        split at hbk
        · cases hbk
          exact ha
        · cases hbk
          exact hstart b' k' rfl

/-- A matched record has a close id, and one the trade may take. -/
theorem matchRecord_usable {cfg : ReconcileConfig} {t : Trade} {records : List Record}
    {ok : String → Bool} {rec : Record} {relaxed : Bool}
    (h : matchRecord cfg t records ok = some (rec, relaxed)) :
    rec.closeId ≠ "" ∧ ok rec.closeId = true := by
  have hbest : ∃ tol, bestMatch t records tol ok = some rec := by
    unfold matchRecord at h
    split at h
    · cases h
      exact ⟨_, ‹_›⟩
    · obtain ⟨r, hr, hrr⟩ := Option.map_eq_some_iff.mp h
      cases hrr
      exact ⟨_, hr⟩
  obtain ⟨tol, hb⟩ := hbest
  obtain ⟨k, hk⟩ := bestMatch_rankOf hb
  unfold rankOf at hk
  split at hk
  · cases hk
  · rename_i hcand
    simp only [Bool.or_eq_true, beq_iff_eq, Bool.not_eq_eq_eq_not, Bool.not_true, not_or,
      Bool.not_eq_false] at hcand
    exact hcand

/-! ### The invariant of a run -/

/-- What a run keeps: every close id held by a row, and the close id of every correction listed
so far, is claimed for its trade; so is each of the `pins`. -/
structure ClaimsHeld (pins : List (String × String)) (d : Desk) : Prop where
  rows : d.store.CloseIdsClaimed d.reconciler.claimed
  corrections : ∀ x ∈ d.reconciler.report.corrections,
    d.reconciler.claimed.lookup x.closeId = some x.tradeId
  pins : ∀ p ∈ pins, d.reconciler.claimed.lookup p.1 = some p.2

/-- A step keeps the invariant: from a desk where it holds it ends in one where it holds. -/
def HoldsClaims (pins : List (String × String)) (d d' : Desk) : Prop :=
  ClaimsHeld pins d → ClaimsHeld pins d'

theorem claims_frame (pins : List (String × String)) : Frame (HoldsClaims pins) where
  refl := fun _ h => h
  trans := fun h₁ h₂ h => h₂ (h₁ h)
  metrics := fun _ _ h => ⟨h.rows, h.corrections, h.pins⟩
  cooldowns := fun _ _ h => ⟨h.rows, h.corrections, h.pins⟩
  trip := fun _ _ h => ⟨h.rows, h.corrections, h.pins⟩
  drop := fun _ _ h => ⟨h.rows, h.corrections, h.pins⟩

theorem ClaimsHeld.drop_pin {pins : List (String × String)} {p : String × String} {d : Desk}
    (h : ClaimsHeld (p :: pins) d) : ClaimsHeld pins d :=
  ⟨h.rows, h.corrections, fun q hq => h.pins q (List.mem_cons_of_mem _ hq)⟩

variable {pins : List (String × String)}

/-- A change of the reconciler that keeps its claims and its corrections. -/
theorem keeps_adjust {f : Reconciler → Reconciler} (hc : ∀ r, (f r).claimed = r.claimed)
    (hr : ∀ r, (f r).report.corrections = r.report.corrections) :
    Keeps (HoldsClaims pins) (adjust f) := by
  intro d h
  refine ⟨?_, ?_, ?_⟩
  · simpa [adjust, exec_modify, hc] using h.rows
  · simpa [adjust, exec_modify, hc, hr] using h.corrections
  · simpa [adjust, exec_modify, hc] using h.pins

theorem keeps_count {f : Report → Report} (hf : ∀ rep, (f rep).corrections = rep.corrections) :
    Keeps (HoldsClaims pins) (count f) :=
  keeps_adjust (fun _ => rfl) fun r => hf r.report

@[simp] theorem exec_engine (d : Desk) : exec engine d = (.ok d.reconciler, d) := rfl

theorem keeps_engine : Keeps (HoldsClaims pins) engine := fun _ h => h

theorem keeps_checkContext : Keeps (HoldsClaims pins) checkContext := by
  unfold checkContext
  refine (claims_frame pins).keeps_bind keeps_engine fun r => ?_
  split
  · exact (claims_frame pins).keeps_throw _
  · exact (claims_frame pins).keeps_pure _

theorem keeps_pace : Keeps (HoldsClaims pins) pace := by
  unfold pace
  refine (claims_frame pins).keeps_bind keeps_checkContext fun _ =>
    (claims_frame pins).keeps_bind keeps_engine fun r => ?_
  split
  · exact keeps_adjust (fun _ => rfl) fun _ => rfl
  · exact (claims_frame pins).keeps_throw _

theorem keeps_askHistory (symbol : String) (start stop : Int) :
    Keeps (HoldsClaims pins) (askHistory symbol start stop) := by
  unfold askHistory
  refine (claims_frame pins).keeps_bind (keeps_adjust (fun _ => rfl) fun _ => rfl) fun _ =>
    (claims_frame pins).keeps_bind keeps_engine fun r => ?_
  split
  · exact (claims_frame pins).keeps_pure _
  · exact (claims_frame pins).keeps_throw _

theorem keeps_fundingOf (t : Trade) (rec : Record) : Keeps (HoldsClaims pins) (fundingOf t rec) := by
  unfold fundingOf
  refine (claims_frame pins).keeps_bind keeps_engine fun r => ?_
  split
  · split
    · exact (claims_frame pins).keeps_pure _
    · unfold askFunding
      refine (claims_frame pins).keeps_bind (keeps_adjust (fun _ => rfl) fun _ => rfl) fun _ => ?_
      split
      · exact (claims_frame pins).keeps_pure _
      · exact (claims_frame pins).keeps_throw _
  · exact (claims_frame pins).keeps_pure _

/-- A correction is written and listed only under the claim of its close id for its trade. -/
theorem keeps_correct (cfg : ReconcileConfig) (t : Trade) (rec : Record) (relaxed : Bool)
    (funding : Float) :
    Keeps (HoldsClaims ((rec.closeId, t.id) :: pins)) (correct cfg t rec relaxed funding) := by
  have hR := claims_frame ((rec.closeId, t.id) :: pins)
  have hpin : ∀ d, ClaimsHeld ((rec.closeId, t.id) :: pins) d →
      d.reconciler.claimed.lookup rec.closeId = some t.id :=
    fun d h => h.pins _ List.mem_cons_self
  unfold correct
  refine hR.keeps_bind (hR.keeps_exact _) fun derived => ?_
  refine hR.keeps_bind (hR.keeps_exact _) fun isMaterial => ?_
  split
  · exact hR.keeps_pure _
  · refine hR.keeps_bind keeps_engine fun r => ?_
    -- the listed correction names the claimed id and the trade
    have hlist : Keeps (HoldsClaims ((rec.closeId, t.id) :: pins))
        (count fun rep => { rep with corrections := rep.corrections ++
          [{ tradeId := t.id, closeId := rec.closeId, oldPnl := t.realizedPnl,
             newPnl := (derived.round 8).toFloat, relaxed }] }) := by
      intro d h
      refine ⟨h.rows, ?_, h.pins⟩
      intro x hx
      simp only [count, adjust, exec_modify, List.mem_append, List.mem_singleton] at hx
      rcases hx with hx | rfl
      · exact h.corrections x hx
      · exact hpin d h
    split
    · refine hR.keeps_bind hR.keeps_clock fun now => ?_
      refine hR.keeps_bind ?_ fun _ => hR.keeps_bind (keeps_count fun _ => rfl) fun _ => hlist
      refine hR.keeps_change fun d s hs h => ⟨?_, h.corrections, h.pins⟩
      exact h.rows.updateReconciled (hpin d h) hs
    · exact hlist

/-- A usable claim keeps the invariant and pins itself. -/
theorem ClaimsHeld.claim {d : Desk} {tid c : String} (h : ClaimsHeld pins d)
    (hu : usable d.reconciler.claimed tid c = true) :
    ClaimsHeld ((c, tid) :: pins)
      { d with reconciler := { d.reconciler with claimed := (c, tid) :: d.reconciler.claimed } } := by
  refine ⟨fun r hr hne => lookup_cons_of_usable hu (h.rows r hr hne),
    fun x hx => lookup_cons_of_usable hu (h.corrections x hx), ?_⟩
  intro p hp
  rcases List.mem_cons.mp hp with rfl | hp
  · exact List.lookup_cons_self
  · exact lookup_cons_of_usable hu (h.pins p hp)

theorem keeps_reconcileTrade (t : Trade) : Keeps (HoldsClaims pins) (reconcileTrade t) := by
  have hR := claims_frame pins
  unfold reconcileTrade
  split
  · exact hR.keeps_bind (keeps_count fun _ => rfl) fun _ => hR.keeps_pure _
  refine hR.keeps_bind keeps_pace fun _ => hR.keeps_bind keeps_engine fun e => ?_
  refine hR.keeps_bind (keeps_askHistory _ _ _) fun records => ?_
  -- the match reads the claims of the desk it runs on
  refine hR.keeps_bind_ok keeps_engine fun e' d d' he => ?_
  simp only [exec_engine, Prod.mk.injEq, Except.ok.injEq] at he
  obtain ⟨rfl, rfl⟩ := he
  intro h
  split
  · exact keeps_count (by intro _; rfl) _ h
  · rename_i rec relaxed hm
    -- after the claim, the rest keeps the invariant with the claim pinned
    have hclaim := h.claim (matchRecord_usable hm).2
    rw [exec_bind]
    simp only [adjust, exec_modify]
    refine ClaimsHeld.drop_pin (?_ : ClaimsHeld ((rec.closeId, t.id) :: pins) _)
    exact (claims_frame _).keeps_bind (keeps_count (by intro _; rfl)) (fun _ =>
      (claims_frame _).keeps_bind (keeps_fundingOf t rec) fun funding =>
        keeps_correct _ t rec relaxed funding) _ hclaim

/-- Each trade of a run in turn keeps the invariant, whether it fails or not. -/
theorem keeps_reconcileEach : ∀ trades : List Trade, Keeps (HoldsClaims pins) (reconcileEach trades)
  | [] => (claims_frame pins).keeps_pure _
  | t :: rest => by
    have hR := claims_frame pins
    unfold reconcileEach
    refine hR.keeps_bind keeps_checkContext fun _ =>
      hR.keeps_bind (keeps_count fun _ => rfl) fun _ =>
        hR.keeps_bind (hR.keeps_attempt (keeps_reconcileTrade t)) fun res => ?_
    dsimp only
    split
    · exact keeps_reconcileEach rest
    · exact hR.keeps_bind keeps_checkContext fun _ =>
        hR.keeps_bind (keeps_count fun _ => rfl) fun _ => keeps_reconcileEach rest

theorem keeps_audit (op : WriteOp Statement) : Keeps (HoldsClaims pins) (audit op) := by
  intro d h
  simp only [audit, exec_modify]
  split
  · exact h
  · rename_i w hw
    refine ⟨h.rows.of_rows ?_, h.corrections, h.pins⟩
    exact BatchWriter.write_preserves (fun s : Store => s.rows = d.store.rows) w Store.commitBatch
      d.store op (fun ops s hs => (Store.commitBatch_rows ops s).trans hs) rfl

theorem Frame.keeps_forIn {R : Desk → Desk → Prop} (hR : Frame R) {α β : Type}
    {f : α → β → DeskM (ForInStep β)} (hf : ∀ a b, Keeps R (f a b)) :
    ∀ (l : List α) (init : β), Keeps R (forIn l init f) := by
  intro l
  induction l with
  | nil => exact fun init => hR.keeps_pure init
  | cons a l ih =>
    intro init
    rw [List.forIn_cons]
    refine hR.keeps_bind (hf a init) fun step => ?_
    cases step with
    | done b => exact hR.keeps_pure b
    | yield b => exact ih b

theorem keeps_recordRun (rep : Report) : Keeps (HoldsClaims pins) (recordRun rep) := by
  have hR := claims_frame pins
  unfold recordRun
  refine hR.keeps_bind (keeps_audit _) fun _ => hR.keeps_bind ?_ fun _ => hR.keeps_pure _
  exact hR.keeps_forIn (fun c _ => hR.keeps_bind (keeps_audit _) fun _ => hR.keeps_pure _) _ _

/-! ### A whole run -/

/-- Under the invariant, two corrections with one close id correct one trade. -/
theorem ClaimsHeld.oneTrade {d : Desk} (h : ClaimsHeld pins d) :
    d.reconciler.report.CloseIdsOneTrade := by
  intro x hx y hy hxy
  have ex := h.corrections x hx
  rw [hxy, h.corrections y hy] at ex
  exact (Option.some.inj ex).symm

/-- A covering listing claims every close id the rows hold for its own trade. -/
theorem claimed_of_listing {d : Desk} {opts : RunOptions} {ts : List Trade}
    (hd : d.store.CloseIdsDistinct) (hcov : opts.covers d = true)
    (hts : d.store.closedSince opts.traderId (opts.since d.now) = .ok ts) :
    d.store.CloseIdsClaimed (recordedClaims ts) := by
  intro r hr hne
  have hlisted : ∃ t ∈ ts, t.reconciledCloseId = r.trade.reconciledCloseId := by
    unfold RunOptions.covers at hcov
    rw [hts] at hcov
    have hr' := List.all_eq_true.mp hcov r hr
    simp only [Bool.or_eq_true, beq_iff_eq, hne, false_or, List.any_eq_true] at hr'
    exact hr'
  obtain ⟨t, ht, htc⟩ := hlisted
  have hsome := lookup_recordedClaims_isSome ht (htc ▸ hne)
  rw [htc] at hsome
  obtain ⟨tid, htid⟩ := Option.isSome_iff_exists.mp hsome
  -- the claim is the one of a listed trade, a row of the store holding the same id
  obtain ⟨t', ht', htc', rfl⟩ := lookup_recordedClaims htid
  obtain ⟨r', hr', rfl⟩ := Store.closedSince_mem hts ht'
  rw [htid, hd r hr r' hr' hne htc'.symm]

/-- A read leaves the desk as it was but for the count of the call. -/
theorem exec_within_read_desk {α : Type} {context : String} {m : StoreMethod}
    {op : Store → Except Fault α} {d d' : Desk} {r : Except Fault α}
    (h : exec (within context (read m op)) d = (r, d')) :
    d' = { d with plan := (d.plan.trip m).1 } := by
  rw [exec_within, exec_read] at h
  revert h
  rcases (d.plan.trip m).2 with _ | f
  · rcases op d.store with f | a
    · intro h
      cases h
      rfl
    · intro h
      cases h
      rfl
  · intro h
    cases h
    rfl

/-- A step that answered, with the desk it left. -/
theorem exec_eq_of_fst {α : Type} {x : DeskM α} {d : Desk} {a : α} (h : (exec x d).1 = .ok a) :
    exec x d = (.ok a, (exec x d).2) := by
  rw [← h]

/-- What a run does once its trades are listed keeps the invariant. -/
theorem keeps_runTail (trades : List Trade) :
    Keeps (HoldsClaims pins)
      (reconcileEach trades >>= fun _ => clock >>= fun finished =>
        count (fun rep => { rep with finishedAt := finished }) >>= fun _ => engine >>= fun e =>
        tally (fun m => { m with reconcileUpdates := m.reconcileUpdates + e.report.updated,
                                 reconcileFailures := m.reconcileFailures + e.report.failed }) >>= fun _ =>
        recordRun e.report >>= fun _ => pure e.report) := by
  have hR := claims_frame pins
  exact hR.keeps_bind (keeps_reconcileEach trades) fun _ => hR.keeps_bind hR.keeps_clock fun _ =>
    hR.keeps_bind (keeps_count (by intro _; rfl)) fun _ => hR.keeps_bind keeps_engine fun _ =>
      hR.keeps_bind (hR.keeps_tally _) fun _ => hR.keeps_bind (keeps_recordRun _) fun _ =>
        hR.keeps_pure _

theorem runBody_keeps_close_ids {runId : String} {opts : RunOptions} {d : Desk}
    (hd : d.store.CloseIdsDistinct) (hcov : opts.covers d = true) :
    (exec (runBody runId opts) d).2.store.CloseIdsDistinct ∧
      d.store.KeepsCloseIds (exec (runBody runId opts) d).2.store ∧
      ∀ rep, (exec (runBody runId opts) d).1 = .ok rep → rep.CloseIdsOneTrade := by
  unfold runBody
  rw [exec_bind, exec_clock]
  dsimp only
  rw [exec_bind]
  simp only [adjust, exec_modify]
  rw [exec_bind]
  split
  · rename_i ts d₂ hL
    have hd₂ := exec_within_read_desk hL
    have hts := exec_read_ok (exec_within_ok hL)
    -- the listing claims every held close id, pinned for the whole run, and the report starts
    -- with no correction
    have hclaimed := claimed_of_listing hd hcov hts
    have hheld : ClaimsHeld d.store.heldPins { d₂ with reconciler := { d₂.reconciler with
        claimed := recordedClaims ts } } := by
      subst hd₂
      exact ⟨hclaimed, (fun x hx => by cases hx), hclaimed.heldPins⟩
    rw [exec_bind, exec_modify]
    dsimp only
    have hend := keeps_runTail ts _ hheld
    refine ⟨hend.rows.distinct, hend.rows.keeps hend.pins, fun rep h => ?_⟩
    -- the answer is the report as the reconciler holds it after the loop
    obtain ⟨_, d₄, h₄, k₄⟩ := exec_bind_ok (exec_eq_of_fst h)
    obtain ⟨_, d₅, h₅, k₅⟩ := exec_bind_ok k₄
    obtain ⟨_, d₆, h₆, k₆⟩ := exec_bind_ok k₅
    obtain ⟨e, d₇, h₇, k₇⟩ := exec_bind_ok k₆
    obtain ⟨_, d₈, -, k₈⟩ := exec_bind_ok k₇
    obtain ⟨_, d₉, -, k₉⟩ := exec_bind_ok k₈
    simp only [exec_pure, Prod.mk.injEq, Except.ok.injEq] at k₉
    simp only [exec_engine, Prod.mk.injEq, Except.ok.injEq] at h₇
    rw [← k₉.1, ← h₇.1]
    have hheld₆ : ClaimsHeld d.store.heldPins d₆ :=
      (keeps_count (by intro _; rfl)).of_exec h₆ ((claims_frame _).keeps_clock.of_exec h₅
        ((keeps_reconcileEach ts).of_exec h₄ hheld))
    exact hheld₆.oneTrade
  · rename_i f d₂ hL
    have hd₂ := exec_within_read_desk hL
    subst hd₂
    exact ⟨hd, hd.keeps rfl, fun rep h => by cases h⟩

/-- One covering run: close ids stay distinct, each close id held when it starts stays off other
trades, and two of its corrections with one close id correct one trade. -/
theorem reconcile_keeps_close_ids {runId : String} {opts : RunOptions} {d : Desk}
    (hd : d.store.CloseIdsDistinct) (hcov : opts.covers d = true) :
    (exec (reconcile runId opts) d).2.store.CloseIdsDistinct ∧
      d.store.KeepsCloseIds (exec (reconcile runId opts) d).2.store ∧
      ∀ rep, (exec (reconcile runId opts) d).1 = .ok rep → rep.CloseIdsOneTrade := by
  unfold reconcile
  rw [exec_bind, exec_engine]
  dsimp only
  split
  · -- a run asked for while another is going on is refused before it changes anything
    rw [exec_bind, exec_throw]
    exact ⟨hd, hd.keeps rfl, fun rep h => by cases h⟩
  rw [exec_bind]
  simp only [adjust, exec_modify]
  generalize hd₁ : ({ d with reconciler := { d.reconciler with running := true } } : Desk) = d₁
  have hb := @runBody_keeps_close_ids runId opts d₁ (by rw [← hd₁]; exact hd)
    (by rw [← hd₁]; exact hcov)
  have hstore : d₁.store = d.store := by rw [← hd₁]
  rw [exec_bind, exec_tryCatch, exec_map]
  rcases hr : exec (runBody runId opts) d₁ with ⟨_ | rep, d₂⟩ <;> rw [hr] at hb
  · simp only [exec_pure, exec_bind, exec_modify, exec_throw]
    exact ⟨hb.1, hstore ▸ hb.2.1, fun rep h => by cases h⟩
  · simp only [exec_bind, exec_modify, exec_pure]
    exact ⟨hb.1, hstore ▸ hb.2.1, fun rep' h => by
      cases h
      exact hb.2.2 rep rfl⟩

/-! ### Sequences of runs -/

/-- A run that lists, for every close id a row holds, a trade holding it. -/
def CoveringRun (d d' : Desk) : Prop :=
  ∃ runId opts, opts.covers d = true ∧ (exec (reconcile runId opts) d).2 = d'

/-- Covering runs, one after another, keep close ids distinct. -/
theorem covering_runs_distinct {d d' : Desk} (hd : d.store.CloseIdsDistinct)
    (hruns : Relation.ReflTransGen CoveringRun d d') : d'.store.CloseIdsDistinct := by
  induction hruns with
  | refl => exact hd
  | tail _ hstep ih =>
    obtain ⟨runId, opts, hcov, rfl⟩ := hstep
    exact (reconcile_keeps_close_ids ih hcov).1

/-- After any sequence of covering runs from a ledger with distinct close ids, the next covering
run keeps them distinct, leaves each close id held when it starts off every other trade, and
lists each close id in corrections of one trade. -/
theorem runs_keep_close_ids {d d' : Desk} (hd : d.store.CloseIdsDistinct)
    (hruns : Relation.ReflTransGen CoveringRun d d') {runId : String} {opts : RunOptions}
    (hcov : opts.covers d' = true) :
    (exec (reconcile runId opts) d').2.store.CloseIdsDistinct ∧
      d'.store.KeepsCloseIds (exec (reconcile runId opts) d').2.store ∧
      ∀ rep, (exec (reconcile runId opts) d').1 = .ok rep → rep.CloseIdsOneTrade :=
  reconcile_keeps_close_ids (covering_runs_distinct hd hruns) hcov

end Desk

/-- A long of one unit opened at 100 and closed at 130, with no profit stored yet. -/
def closedLong (id trader : String) (opened closed : Int) : Trade :=
  { id := id, traderId := trader, symbol := "BTCUSDT", side := .long, size := 1, entryPrice := 100,
    exitPrice := 130, status := .closed, createdAt := some opened, closedAt := some closed }

/-- One closed position of the venue, close id `900`. -/
def closeRecord : Record :=
  { closeId := "900", symbol := "BTCUSDT", side := "LONG", openTime := some 1790856000000,
    closeTime := some 1790859605000, openPrice := 100, closePrice := 130, size := 1,
    realizedPnl := 30, hasRealized := true, fee := 0.5 }

/-- Two traders' trades, each within the tolerances of the one venue position. -/
def twoTraderLedger : Desk :=
  { now := some 1790863200000,
    store := { rows := [Store.Row.ofNew (closedLong "first" "alice" 1790856000000 1790859600000),
                        Store.Row.ofNew (closedLong "second" "bob" 1790856010000 1790859605000)] },
    reconciler := Reconciler.new {} (.records [closeRecord]) none none }

/-- The ledger after a run for the first trader, which records `900` on its trade. -/
def afterFirstTraderRun : Desk := (Desk.exec (Desk.reconcile "r1" { traderId := "alice" }) twoTraderLedger).2

/-- The run for the first trader covers the ledger, which holds no close id yet; a run over
both traders then covers the ledger it leaves. -/
theorem covering_run_keeps_close_ids :
    twoTraderLedger.store.CloseIdsDistinct ∧
      Relation.ReflTransGen Desk.CoveringRun twoTraderLedger afterFirstTraderRun ∧
      ({} : RunOptions).covers afterFirstTraderRun = true ∧
      (Desk.exec (Desk.reconcile "r2" {}) afterFirstTraderRun).2.store.CloseIdsDistinct ∧
      afterFirstTraderRun.store.KeepsCloseIds
        (Desk.exec (Desk.reconcile "r2" {}) afterFirstTraderRun).2.store ∧
      ∀ rep, (Desk.exec (Desk.reconcile "r2" {}) afterFirstTraderRun).1 = .ok rep →
        rep.CloseIdsOneTrade := by
  have hd : twoTraderLedger.store.CloseIdsDistinct := by decide +kernel
  have hruns : Relation.ReflTransGen Desk.CoveringRun twoTraderLedger afterFirstTraderRun :=
    .single ⟨"r1", { traderId := "alice" }, by decide +kernel, rfl⟩
  have hcov : ({} : RunOptions).covers afterFirstTraderRun = true := by decide +kernel
  exact ⟨hd, hruns, hcov, Desk.runs_keep_close_ids hd hruns hcov⟩

/-- A run for the second trader lists only that trader's trade, so `900` looks unclaimed and is
recorded a second time. -/
theorem close_id_reused_across_traders :
    (((Desk.exec (Desk.reconcile "r2" { traderId := "bob" }) afterFirstTraderRun).2.store.rows.filter
      (·.trade.reconciledCloseId == "900")).map (·.trade.id)) = ["first", "second"] := by
  decide +kernel

/-- Trade `a` of trader `T`, closed, already holding close id `X`. -/
def heldCloseIdRow : Row :=
  let r := Store.Row.ofNew (closedLong "a" "T" 1790856000000 1790859600000)
  { r with trade := { r.trade with reconciledCloseId := "X" } }

/-- Two equal trades of one trader, the first holding close id `X`, and two venue positions
with the profit 30: `X`, closed a minute after the trades, and `Y`, closed with them. -/
def heldCloseIdLedger : Desk :=
  { now := some 1790866800000,
    store := { rows := [heldCloseIdRow,
      Store.Row.ofNew (closedLong "b" "T" 1790856000000 1790859600000)] },
    reconciler := Reconciler.new {} (.records [
      { closeRecord with closeId := "X", closeTime := some 1790859660000, fee := 0 },
      { closeRecord with closeId := "Y", closeTime := some 1790859600000, fee := 0 }]) none none }

/-- The first run moves `a` to the nearer position `Y` while `X` stays claimed by `a` for the
rest of the run, so `b` finds nothing. The second run, at the same instant, rebuilds the claims
from the rows, finds `X` free and corrects `b` with it. -/
theorem second_run_gives_released_close_id :
    ((Desk.exec (Desk.reconcile "r1" {}) heldCloseIdLedger).1.toOption.map fun rep =>
        (rep.updated, rep.corrections.map fun c => (c.tradeId, c.closeId))) = some (1, [("a", "Y")]) ∧
    ((Desk.exec (Desk.reconcile "r2" {}) (Desk.exec (Desk.reconcile "r1" {}) heldCloseIdLedger).2).1.toOption.map
      fun rep => (rep.updated, rep.corrections.map fun c => (c.tradeId, c.closeId))) =
        some (1, [("b", "X")]) := by
  decide +kernel

end TradeLedger
