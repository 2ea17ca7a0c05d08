import TradeLedger.Proofs.Reconcile.CloseIds
/-!
# A run seen through what it changes

A reconciliation run reads its tuning, sources, clock and dry flag, and changes the claimed
close ids, the store, the update count and the corrections, which later trades and its report
read. On a desk with no cancellation, deadline or staged store failure the run agrees with a
walk over its trades, step for step.

## Main definitions

* `RunEnv`, `RunTally`: what a run reads and what it changes.
* `RunEnv.walk`: the trades' steps in turn, stopping at a stop.

## Theorems

* `Desk.Uninterrupted.reconcileEach`: the run's loop is the walk.
* `Desk.Ready.reconcile_walk`: a whole run is the walk, with its audit trail.
-/

namespace TradeLedger

/-- What a run reads and never changes: the reconciler's tuning and sources, the clock, and
whether the run is dry. -/
structure RunEnv where
  config : ReconcileConfig
  history : HistorySource
  funding : Option FundingSource
  now : Instant
  dryRun : Bool

/-- What a run changes that later trades and the report read: the claimed close ids, the store,
the count of updates and the corrections. -/
structure RunTally where
  claimed : List (String × String)
  store : Store
  updated : Nat
  corrections : List Correction

namespace RunEnv

variable (e : RunEnv)

/-- The closed positions the venue gives for a trade: those around its lifetime, widened by the
padding and at least by the relaxed tolerances. -/
def records (t : Trade) : Except Fault (List Record) :=
  e.history.query t.symbol
    (t.createdAt.toMs - Duration.toMs (max e.config.windowPadding e.config.relaxed.opening))
    (t.closedAt.toMs + Duration.toMs (max e.config.windowPadding e.config.relaxed.closing))

/-- The funding of a matched record: its own, unless it has none and a source is there. -/
def fundingFor (t : Trade) (rec : Record) : Except Fault Float :=
  match e.funding with
  | some src =>
    if rec.hasFunding then .ok rec.funding
    else match src.query t.symbol rec.openTime.toMs rec.closeTime.toMs with
      | .ok x => .ok x
      | .error f => .error (f.wrap "funding lookup: ")
  | none => .ok rec.funding

/-- The correction of a matched trade: the derived figure and, when it differs materially from
the stored one, the corrected row and the listed correction. A figure that cannot be derived or
compared stops the run. -/
def correctStep (t : Trade) (rec : Record) (relaxed : Bool) (funding : Float) (v : RunTally) :
    Except Fault Unit × RunTally :=
  match derivePnl t.side rec funding with
  | .error m => (.error (Fault.panic m), v)
  | .ok derived =>
    match material t.realizedPnl derived e.config.materiality with
    | .error m => (.error (Fault.panic m), v)
    | .ok false => (.ok (), v)
    | .ok true =>
      let c : Correction :=
        { tradeId := t.id, closeId := rec.closeId, oldPnl := t.realizedPnl
          newPnl := (derived.round 8).toFloat, relaxed }
      if e.dryRun then (.ok (), { v with corrections := v.corrections ++ [c] })
      else match v.store.updateReconciled e.now t.id c.newPnl rec.closeId e.now with
        | .error f => (.error f, v)
        | .ok s =>
          (.ok (), { v with store := s, updated := v.updated + 1
                            corrections := v.corrections ++ [c] })

/-- One trade of a run: a trade with no close time, no history or no usable record is left as
it is; a matched trade claims the record's close id and is corrected from it. -/
def tradeStep (t : Trade) (v : RunTally) : Except Fault Unit × RunTally :=
  if t.closedAt.isZero then (.ok (), v) else
  match e.records t with
  | .error f => (.error (f.wrap "position history: "), v)
  | .ok rs =>
    match Desk.matchRecord e.config t rs (Desk.usable v.claimed t.id) with
    | none => (.ok (), v)
    | some (rec, relaxed) =>
      let v := { v with claimed := (rec.closeId, t.id) :: v.claimed }
      match e.fundingFor t rec with
      | .error f => (.error f, v)
      | .ok funding => e.correctStep t rec relaxed funding v

/-- The trades of a run in turn: a stop ends the run, any other failure is counted and the run
goes on. -/
def walk : List Trade → RunTally → Except Fault Unit × RunTally
  | [], v => (.ok (), v)
  | t :: ts, v =>
    match e.tradeStep t v with
    | (.ok (), v') => walk ts v'
    | (.error f, v') => if f.kind == .panic then (.error f, v') else walk ts v'

end RunEnv

theorem Pacer.wait_none (p : Pacer) : ∃ p', p.wait none = .ok p' := by
  unfold Pacer.wait
  split
  · exact ⟨p, rfl⟩
  · exact ⟨_, rfl⟩

/-- With no failure staged, a store call meets none and leaves the plan as it was. -/
theorem FaultPlan.trip_of_staged_nil {p : FaultPlan} (h : p.staged = []) (m : StoreMethod) :
    p.trip m = (p, none) := by
  unfold FaultPlan.trip
  rw [h]
  rfl

namespace Desk

/-- What a desk's run has changed so far. -/
def runTally (d : Desk) : RunTally :=
  ⟨d.reconciler.claimed, d.store, d.reconciler.report.updated, d.reconciler.report.corrections⟩

/-- What a desk's run reads. -/
def reads (d : Desk) : RunEnv :=
  ⟨d.reconciler.config, d.reconciler.history, d.reconciler.funding, d.now,
    d.reconciler.report.dryRun⟩

/-- A desk whose run reads `e` and is not cut short: its context is neither cancelled nor
bounded nor set to end at the first query, and no store failure is staged. -/
structure Uninterrupted (e : RunEnv) (d : Desk) : Prop where
  context : d.reconciler.context = {}
  staged : d.plan.staged = []
  reads : d.reads = e

/-- A desk step that answered as a tally step did: the same answer, the tally the tally step
left, and a desk that is still uninterrupted. -/
structure Agrees {α : Type} (e : RunEnv) (p : Except Fault α × Desk)
    (q : Except Fault α × RunTally) : Prop where
  answer : p.1 = q.1
  runTally : p.2.runTally = q.2
  uninterrupted : p.2.Uninterrupted e

/-- An agreeing step, as the pair it runs to. -/
theorem Agrees.exists_eq {α : Type} {e : RunEnv} {x : DeskM α} {d : Desk} {r : Except Fault α}
    {v : RunTally} (hx : Agrees e (exec x d) (r, v)) :
    ∃ d', exec x d = (r, d') ∧ d'.Uninterrupted e ∧ d'.runTally = v :=
  ⟨_, Prod.ext hx.answer rfl, hx.uninterrupted, hx.runTally⟩

namespace Uninterrupted

variable {e : RunEnv} {d : Desk}

theorem trip (h : d.Uninterrupted e) (m : StoreMethod) : d.plan.trip m = (d.plan, none) :=
  FaultPlan.trip_of_staged_nil h.staged m

theorem contextFault (h : d.Uninterrupted e) : Desk.contextFault d.reconciler = none := by
  unfold Desk.contextFault
  rw [h.context]
  rfl

theorem checkContext (h : d.Uninterrupted e) : exec checkContext d = (.ok (), d) := by
  unfold Desk.checkContext
  rw [exec_bind, exec_engine]
  dsimp only
  rw [h.contextFault]
  rfl

/-- A report change that keeps the dry-run flag, the updates and the corrections is aside from
the run. -/
theorem count (h : d.Uninterrupted e) {f : Report → Report}
    (hf : ∀ rep, (f rep).dryRun = rep.dryRun)
    (hu : ∀ rep, (f rep).updated = rep.updated)
    (hc : ∀ rep, (f rep).corrections = rep.corrections) :
    Agrees e (exec (Desk.count f) d) (.ok (), d.runTally) := by
  refine ⟨rfl, ?_, ⟨h.context, h.staged, ?_⟩⟩
  · simp [Desk.count, adjust, runTally, hu, hc]
  · rw [← h.reads]
    simp [Desk.count, adjust, Desk.reads, hf]

theorem pace (h : d.Uninterrupted e) : Agrees e (exec Desk.pace d) (.ok (), d.runTally) := by
  unfold Desk.pace
  rw [exec_bind, h.checkContext]
  dsimp only
  rw [exec_bind, exec_engine]
  dsimp only
  rw [h.context]
  obtain ⟨p, hp⟩ := d.reconciler.pacer.wait_none
  rw [hp]
  exact ⟨rfl, rfl, ⟨h.context, h.staged, h.reads⟩⟩

theorem config (h : d.Uninterrupted e) : d.reconciler.config = e.config := by rw [← h.reads]; rfl

theorem history (h : d.Uninterrupted e) : d.reconciler.history = e.history := by rw [← h.reads]; rfl

theorem funding (h : d.Uninterrupted e) : d.reconciler.funding = e.funding := by rw [← h.reads]; rfl

theorem now (h : d.Uninterrupted e) : d.now = e.now := by rw [← h.reads]; rfl

theorem dryRun (h : d.Uninterrupted e) : d.reconciler.report.dryRun = e.dryRun := by
  rw [← h.reads]
  rfl

theorem askHistory (h : d.Uninterrupted e) (symbol : String) (start stop : Int) :
    Agrees e (exec (Desk.askHistory symbol start stop) d)
      (match e.history.query symbol start stop with
        | .ok rs => .ok rs
        | .error f => .error (f.wrap "position history: "), d.runTally) := by
  unfold Desk.askHistory
  rw [exec_bind]
  simp only [adjust, exec_modify]
  rw [exec_bind, exec_engine]
  dsimp only
  -- the context is not set to end at a query, so only the question is kept
  have hctx : (if d.reconciler.context.cancelOnHistory = true then
      { d.reconciler.context with cancelled := true } else d.reconciler.context) =
      d.reconciler.context := by
    rw [h.context]
    rfl
  have hq : Uninterrupted e { d with reconciler := { d.reconciler with
      asked := d.reconciler.asked ++ [⟨symbol, start, stop⟩] } } :=
    ⟨h.context, h.staged, h.reads⟩
  rw [hctx, ← h.history]
  rcases d.reconciler.history.query symbol start stop with f | rs
  · exact ⟨rfl, rfl, hq⟩
  · exact ⟨rfl, rfl, hq⟩

theorem fundingOf (h : d.Uninterrupted e) (t : Trade) (rec : Record) :
    Agrees e (exec (Desk.fundingOf t rec) d) (e.fundingFor t rec, d.runTally) := by
  unfold Desk.fundingOf RunEnv.fundingFor
  rw [exec_bind, exec_engine]
  dsimp only
  rw [← h.funding]
  rcases d.reconciler.funding with _ | src
  · exact ⟨rfl, rfl, h⟩
  dsimp only
  by_cases hf : rec.hasFunding = true
  · simp only [hf, if_true]
    exact ⟨rfl, rfl, h⟩
  simp only [hf, Bool.false_eq_true, if_false]
  unfold askFunding
  rw [exec_bind]
  simp only [adjust, exec_modify]
  -- asking keeps the question, and nothing a run reads
  have hq : Uninterrupted e { d with reconciler := { d.reconciler with
      fundingAsked := d.reconciler.fundingAsked ++
        [⟨t.symbol, rec.openTime.toMs, rec.closeTime.toMs⟩] } } :=
    ⟨h.context, h.staged, h.reads⟩
  rcases src.query t.symbol rec.openTime.toMs rec.closeTime.toMs with f | x
  · exact ⟨rfl, rfl, hq⟩
  · exact ⟨rfl, rfl, hq⟩

theorem correct (h : d.Uninterrupted e) (t : Trade) (rec : Record) (relaxed : Bool)
    (funding : Float) :
    Agrees e (exec (Desk.correct e.config t rec relaxed funding) d)
      (e.correctStep t rec relaxed funding d.runTally) := by
  unfold Desk.correct RunEnv.correctStep
  rcases derivePnl t.side rec funding with m | derived
  · exact ⟨rfl, rfl, h⟩
  rw [exec_bind, exec_exact]
  dsimp only
  rcases material t.realizedPnl derived e.config.materiality with m | material
  · exact ⟨rfl, rfl, h⟩
  rw [exec_bind, exec_exact]
  dsimp only
  cases material
  · exact ⟨rfl, rfl, h⟩
  simp only [Bool.not_true, Bool.false_eq_true, if_false]
  rw [exec_bind, exec_engine]
  dsimp only
  rw [h.dryRun]
  cases e.dryRun
  · -- a run that is not dry writes the corrected figure to the row
    simp only [Bool.not_false, if_true]
    rw [exec_bind, exec_clock]
    dsimp only
    rw [exec_bind, exec_change, h.trip, ← h.now]
    dsimp only [runTally, Bool.false_eq_true, if_false]
    rcases d.store.updateReconciled d.now t.id (derived.round 8).toFloat rec.closeId d.now
      with f | s
    · exact ⟨rfl, rfl, h⟩
    · exact ⟨rfl, rfl, ⟨h.context, h.staged, h.reads⟩⟩
  · simp only [Bool.not_true, Bool.false_eq_true, if_false]
    exact ⟨rfl, rfl, ⟨h.context, h.staged, h.reads⟩⟩

/-- One trade of a run on an uninterrupted desk is the trade's step of the tally. -/
theorem reconcileTrade (h : d.Uninterrupted e) (t : Trade) :
    Agrees e (exec (Desk.reconcileTrade t) d) (e.tradeStep t d.runTally) := by
  unfold Desk.reconcileTrade RunEnv.tradeStep
  by_cases hz : t.closedAt.isZero = true
  · simp only [hz, if_true]
    obtain ⟨d₁, hx₁, h₁, ht₁⟩ := (h.count (fun _ => rfl) (fun _ => rfl) (fun _ => rfl)
      (f := fun rep => { rep with unmatched := rep.unmatched + 1 })).exists_eq
    rw [exec_bind, hx₁]
    exact ⟨rfl, ht₁, h₁⟩
  simp only [hz, Bool.false_eq_true, if_false]
  obtain ⟨d₁, hx₁, h₁, ht₁⟩ := h.pace.exists_eq
  rw [exec_bind, hx₁]
  dsimp only
  rw [exec_bind, exec_engine]
  dsimp only
  rw [h₁.config]
  unfold RunEnv.records
  generalize
    t.createdAt.toMs - Duration.toMs (max e.config.windowPadding e.config.relaxed.opening) = start
  generalize t.closedAt.toMs + Duration.toMs (max e.config.windowPadding e.config.relaxed.closing) =
    stop
  have ha := h₁.askHistory t.symbol start stop
  cases hq : e.history.query t.symbol start stop with
  | error f =>
    -- no history: the trade fails as it stands
    rw [hq] at ha
    obtain ⟨d₂, hx₂, h₂, ht₂⟩ := ha.exists_eq
    rw [exec_bind, hx₂]
    exact ⟨rfl, ht₂.trans ht₁, h₂⟩
  | ok rs =>
  rw [hq] at ha
  obtain ⟨d₂, hx₂, h₂, ht₂⟩ := ha.exists_eq
  rw [exec_bind, hx₂]
  dsimp only
  rw [exec_bind, exec_engine]
  dsimp only
  -- the match reads the claims the run has made so far
  have hclaimed : d₂.reconciler.claimed = d.runTally.claimed :=
    congrArg RunTally.claimed (ht₂.trans ht₁)
  rw [hclaimed]
  rcases Desk.matchRecord e.config t rs (usable d.runTally.claimed t.id) with _ | ⟨rec, relaxed⟩
  · obtain ⟨d₃, hx₃, h₃, ht₃⟩ := (h₂.count (fun _ => rfl) (fun _ => rfl) (fun _ => rfl)
      (f := fun rep => { rep with unmatched := rep.unmatched + 1 })).exists_eq
    exact ⟨by rw [hx₃], by rw [hx₃]; exact ht₃.trans (ht₂.trans ht₁), by rw [hx₃]; exact h₃⟩
  dsimp only
  rw [exec_bind]
  simp only [adjust, exec_modify]
  -- the claim of the record's close id
  have h₃ : Uninterrupted e { d₂ with reconciler := { d₂.reconciler with
      claimed := (rec.closeId, t.id) :: d₂.reconciler.claimed } } :=
    ⟨h₂.context, h₂.staged, h₂.reads⟩
  obtain ⟨d₄, hx₄, h₄, ht₄⟩ := (h₃.count (fun _ => rfl) (fun _ => rfl) (fun _ => rfl)
    (f := fun rep => { rep with matched := rep.matched + 1,
                                relaxed := rep.relaxed + (if relaxed then 1 else 0) })).exists_eq
  rw [exec_bind, hx₄]
  dsimp only
  have ht₄' : d₄.runTally =
      { d.runTally with claimed := (rec.closeId, t.id) :: d.runTally.claimed } := by
    rw [ht₄, ← hclaimed, ← ht₂.trans ht₁]
    rfl
  have hf := h₄.fundingOf t rec
  rw [ht₄'] at hf
  obtain ⟨d₅, hx₅, h₅, ht₅⟩ := hf.exists_eq
  rw [exec_bind, hx₅]
  cases e.fundingFor t rec with
  | error f => exact ⟨rfl, ht₅, h₅⟩
  | ok funding =>
  dsimp only
  rw [← ht₅]
  exact h₅.correct t rec relaxed funding

/-- The trades of a run on an uninterrupted desk are the walk: the run stops where the walk does,
and leaves the tally the walk leaves. -/
theorem reconcileEach (h : d.Uninterrupted e) (ts : List Trade) :
    Agrees e (exec (Desk.reconcileEach ts) d) (e.walk ts d.runTally) := by
  induction ts generalizing d with
  | nil => exact ⟨rfl, rfl, h⟩
  | cons t ts ih =>
    unfold Desk.reconcileEach RunEnv.walk
    rw [exec_bind, h.checkContext]
    dsimp only
    obtain ⟨d₁, hx₁, h₁, ht₁⟩ := (h.count (fun _ => rfl) (fun _ => rfl) (fun _ => rfl)
      (f := fun rep => { rep with examined := rep.examined + 1 })).exists_eq
    rw [exec_bind, hx₁]
    dsimp only
    have ht : Agrees e (exec (Desk.reconcileTrade t) d₁)
        ((e.tradeStep t d.runTally).1, (e.tradeStep t d.runTally).2) := by
      rw [← ht₁]
      exact h₁.reconcileTrade t
    obtain ⟨d₂, hx₂, h₂, ht₂⟩ := ht.exists_eq
    rw [exec_bind, exec_attempt, hx₂]
    generalize e.tradeStep t d.runTally = q at ht₂ ⊢
    obtain ⟨r, v⟩ := q
    dsimp only at ht₂ ⊢
    subst ht₂
    cases r with
    | ok u =>
      exact ih h₂
    | error f =>
      by_cases hpanic : (f.kind == .panic) = true
      · simp only [hpanic, if_true]
        exact ⟨rfl, rfl, h₂⟩
      · -- a failure that is not a stop is counted and the run goes on
        simp only [hpanic, Bool.false_eq_true, if_false]
        rw [exec_bind, h₂.checkContext]
        dsimp only
        obtain ⟨d₃, hx₃, h₃, ht₃⟩ := (h₂.count (fun _ => rfl) (fun _ => rfl) (fun _ => rfl)
          (f := fun rep => { rep with failed := rep.failed + 1 })).exists_eq
        rw [exec_bind, hx₃]
        dsimp only
        rw [← ht₃]
        exact ih h₃

end Uninterrupted

end Desk

/-! ### A whole run -/

namespace Store

variable {s : Store}

/-- An audit statement writes the trail, and never opens or closes the store. -/
theorem execute_closed {s' : Store} {st : Statement} (h : s.execute st = some s') :
    s'.closed = s.closed := by
  cases st <;> simp only [execute] at h
  · split at h <;> cases h
    rfl
  · split at h <;> cases h
    rfl
  · cases h
    rfl
  · cases h

theorem executeAll_closed : ∀ {s s' : Store} {ops : List (WriteOp Statement)},
    s.executeAll ops = .ok s' → s'.closed = s.closed
  | s, s', [], h => by
    cases h
    rfl
  | s, s', op :: ops, h => by
    simp only [executeAll] at h
    split at h
    · rename_i s₁ h₁
      rw [executeAll_closed h, execute_closed h₁]
    · cases h

theorem commitBatch_closed (ops : List (WriteOp Statement)) (s : Store) :
    (commitBatch ops s).1.closed = s.closed := by
  unfold commitBatch runBatch
  split
  · rename_i s' h
    split at h
    · cases h
    · exact executeAll_closed h
  · rfl

end Store

namespace Desk

/-- The desk with the audit trail written: a new store and batch writer. -/
def withTrail (d : Desk) (s : Store) (w : Option (BatchWriter Statement)) : Desk :=
  { d with store := s, reconciler := { d.reconciler with auditor := w } }

/-- A store that differs from `s` only in its trail. -/
def SameRows (s s' : Store) : Prop := s'.rows = s.rows ∧ s'.closed = s.closed

theorem audit_trail (op : WriteOp Statement) (d : Desk) :
    ∃ s w, exec (audit op) d = (.ok (), d.withTrail s w) ∧ SameRows d.store s := by
  simp only [audit, exec_modify]
  split
  · exact ⟨d.store, none, by rename_i h; rw [withTrail, ← h], rfl, rfl⟩
  · rename_i w hw
    refine ⟨_, _, rfl, ?_⟩
    exact BatchWriter.write_preserves (fun s : Store => SameRows d.store s) w Store.commitBatch
      d.store op (fun ops s hs => ⟨(Store.commitBatch_rows ops s).trans hs.1,
        (Store.commitBatch_closed ops s).trans hs.2⟩) ⟨rfl, rfl⟩

theorem withTrail_withTrail (d : Desk) (s s' : Store) (w w' : Option (BatchWriter Statement)) :
    (d.withTrail s w).withTrail s' w' = d.withTrail s' w' := rfl

/-- A finished run's audit rows are written beside the trade rows. -/
theorem recordRun_trail {rep : Report} {d : Desk} {E : Except Fault Unit × Desk}
    (hE : exec (recordRun rep) d = E) :
    ∃ s w, E = (.ok (), d.withTrail s w) ∧ SameRows d.store s := by
  subst hE
  unfold recordRun
  obtain ⟨s₁, w₁, hx₁, hs₁⟩ := audit_trail ⟨"reconciliation_runs", .insertRun rep.runRow⟩ d
  rw [exec_bind, hx₁]
  dsimp only
  -- the loop over the corrections writes one audit row each
  suffices hloop : ∀ (l : List Correction) (s : Store) (w : Option (BatchWriter Statement)),
      SameRows d.store s → ∃ s' w', exec (forIn l PUnit.unit fun c _ => do
          audit ⟨"reconciliation_corrections", .insertCorrection (rep.correctionRow c)⟩
          pure (ForInStep.yield PUnit.unit)) (d.withTrail s w) = (.ok (), d.withTrail s' w') ∧
        SameRows d.store s' by
    obtain ⟨s', w', hx, hs⟩ := hloop rep.corrections s₁ w₁ hs₁
    rw [exec_bind, hx]
    exact ⟨s', w', rfl, hs⟩
  intro l
  induction l with
  | nil => exact fun s w hs => ⟨s, w, rfl, hs⟩
  | cons c l ih =>
    intro s w hs
    rw [List.forIn_cons, exec_bind, exec_bind]
    obtain ⟨s₂, w₂, hx₂, hs₂⟩ := audit_trail
      ⟨"reconciliation_corrections", .insertCorrection (rep.correctionRow c)⟩ (d.withTrail s w)
    rw [hx₂]
    dsimp only
    rw [withTrail_withTrail]
    exact ih s₂ w₂ ⟨hs₂.1.trans hs.1, hs₂.2.trans hs.2⟩

/-- What a run started on `d` with options `opts` reads. -/
def runEnv (d : Desk) (opts : RunOptions) : RunEnv :=
  ⟨d.reconciler.config, d.reconciler.history, d.reconciler.funding, d.now, opts.dryRun⟩

/-- The tally a run starts its trades from: the close ids recorded on the listed trades, the
store, and no update or correction yet. -/
def RunTally.start (ts : List Trade) (s : Store) : RunTally := ⟨recordedClaims ts, s, 0, []⟩

/-- A desk a run can be started on and go through: no run going on, a context that never ends,
and no staged store failure. -/
structure Ready (d : Desk) : Prop where
  running : d.reconciler.running = false
  context : d.reconciler.context = {}
  staged : d.plan.staged = []

/-- What a run does once its trades are listed and their recorded claims taken: the walk, then
the report finished and its audit rows written. -/
theorem runTail_walk {e : RunEnv} {d : Desk} (h : d.Uninterrupted e) (ts : List Trade) :
    ∃ rep d', exec (reconcileEach ts >>= fun _ => clock >>= fun finished =>
        count (fun rep => { rep with finishedAt := finished }) >>= fun _ => engine >>= fun r =>
        tally (fun m => { m with
          reconcileUpdates := m.reconcileUpdates + r.report.updated,
          reconcileFailures := m.reconcileFailures + r.report.failed }) >>= fun _ =>
        recordRun r.report >>= fun _ => pure r.report) d =
        ((e.walk ts d.runTally).1.map fun _ => rep, d') ∧
      rep.updated = (e.walk ts d.runTally).2.updated ∧
      rep.corrections = (e.walk ts d.runTally).2.corrections ∧
      ((e.walk ts d.runTally).1 = .ok () →
        d'.reconciler.context = {} ∧ d'.plan.staged = [] ∧
        SameRows (e.walk ts d.runTally).2.store d'.store ∧
        ∀ opts : RunOptions, opts.dryRun = e.dryRun → d'.runEnv opts = e) := by
  have hw : Agrees e (exec (reconcileEach ts) d)
      ((e.walk ts d.runTally).1, (e.walk ts d.runTally).2) := h.reconcileEach ts
  obtain ⟨d₁, hx₁, h₁, ht₁⟩ := hw.exists_eq
  rw [exec_bind, hx₁]
  generalize e.walk ts d.runTally = w at ht₁ ⊢
  obtain ⟨r, v⟩ := w
  dsimp only at ht₁ ⊢
  subst ht₁
  cases r with
  | error f =>
    exact ⟨{ updated := d₁.runTally.updated, corrections := d₁.runTally.corrections }, d₁, rfl, rfl,
      rfl, fun h => by cases h⟩
  | ok u =>
  dsimp only
  rw [exec_bind, exec_clock]
  dsimp only
  rw [exec_bind]
  simp only [count, adjust, exec_modify]
  rw [exec_bind, exec_engine]
  dsimp only
  rw [exec_bind, exec_tally]
  dsimp only
  rw [exec_bind]
  generalize hE : exec (recordRun _) _ = E
  obtain ⟨s, w, rfl, hs⟩ := recordRun_trail hE
  refine ⟨_, _, rfl, rfl, rfl, fun _ => ⟨h₁.context, h₁.staged, hs, fun opts hopts => ?_⟩⟩
  rw [← h₁.reads]
  simp [runEnv, withTrail, Desk.reads, hopts, ← h₁.dryRun]

/-- The body of a run whose listing reads `ts` answers as the walk over `ts` from the claims
recorded on them. -/
theorem runBody_walk {d : Desk} (runId : String) {opts : RunOptions} {ts : List Trade}
    (hctx : d.reconciler.context = {}) (hstaged : d.plan.staged = [])
    (hts : d.store.closedSince opts.traderId (opts.since d.now) = .ok ts) :
    ∃ rep d', exec (runBody runId opts) d =
        (((d.runEnv opts).walk ts (RunTally.start ts d.store)).1.map fun _ => rep, d') ∧
      rep.updated = ((d.runEnv opts).walk ts (RunTally.start ts d.store)).2.updated ∧
      rep.corrections = ((d.runEnv opts).walk ts (RunTally.start ts d.store)).2.corrections ∧
      (((d.runEnv opts).walk ts (RunTally.start ts d.store)).1 = .ok () →
        d'.reconciler.context = {} ∧ d'.plan.staged = [] ∧
        SameRows ((d.runEnv opts).walk ts (RunTally.start ts d.store)).2.store d'.store ∧
        ∀ o : RunOptions, o.dryRun = (d.runEnv opts).dryRun → d'.runEnv o = d.runEnv opts) := by
  unfold runBody
  dsimp only
  rw [exec_bind, exec_clock]
  dsimp only
  rw [exec_bind]
  simp only [adjust, exec_modify]
  rw [exec_bind, exec_within, exec_read, FaultPlan.trip_of_staged_nil hstaged]
  dsimp only
  have hts' : d.store.closedSince opts.traderId (d.now.addMs (-Duration.toMs
      (if opts.lookback ≤ 0 then 24 * 3600 * Duration.perSecond else opts.lookback))) = .ok ts :=
    hts
  rw [hts']
  dsimp only
  rw [exec_bind]
  simp only [exec_modify]
  -- the trades start from the claims recorded on them, on an uninterrupted desk
  refine runTail_walk ?_ ts
  exact ⟨hctx, hstaged, rfl⟩

/-- A run on a ready desk whose listing reads `ts` answers as the walk over `ts` from the claims
recorded on them. When the walk goes through, the run hands on a ready desk with the rows the walk
left, reading what this run read. -/
theorem Ready.reconcile_walk {d : Desk} (hd : d.Ready) (runId : String) {opts : RunOptions}
    {ts : List Trade} (hts : d.store.closedSince opts.traderId (opts.since d.now) = .ok ts) :
    ∃ rep d', exec (reconcile runId opts) d =
        (((d.runEnv opts).walk ts (RunTally.start ts d.store)).1.map fun _ => rep, d') ∧
      rep.updated = ((d.runEnv opts).walk ts (RunTally.start ts d.store)).2.updated ∧
      rep.corrections = ((d.runEnv opts).walk ts (RunTally.start ts d.store)).2.corrections ∧
      (((d.runEnv opts).walk ts (RunTally.start ts d.store)).1 = .ok () →
        d'.Ready ∧ SameRows ((d.runEnv opts).walk ts (RunTally.start ts d.store)).2.store d'.store ∧
        ∀ o : RunOptions, o.dryRun = opts.dryRun → d'.runEnv o = d.runEnv opts) := by
  unfold reconcile
  rw [exec_bind, exec_engine]
  dsimp only
  rw [hd.running]
  simp only [Bool.false_eq_true, if_false]
  rw [exec_bind]
  simp only [adjust, exec_modify]
  obtain ⟨rep, d', hx, hu, hc, hok⟩ := runBody_walk runId
    (d := { d with reconciler := { d.reconciler with running := true } }) hd.context hd.staged hts
  dsimp only [runEnv, RunTally.start] at hx hu hc hok ⊢
  rw [exec_bind, exec_tryCatch, exec_map, hx]
  generalize RunEnv.walk _ ts _ = w at hu hc hok ⊢
  obtain ⟨r, v⟩ := w
  dsimp only at hu hc hok ⊢
  -- the run is over however the body ended, and its answer is the body's
  cases r with
  | error f =>
    exact ⟨rep, _, rfl, hu, hc, fun h => by cases h⟩
  | ok u =>
    obtain ⟨hctx, hstaged, hrows, henv⟩ := hok rfl
    refine ⟨rep, _, rfl, hu, hc, fun _ => ⟨⟨rfl, hctx, hstaged⟩, hrows, fun o ho => ?_⟩⟩
    simpa [runEnv] using henv o ho

end Desk

end TradeLedger
