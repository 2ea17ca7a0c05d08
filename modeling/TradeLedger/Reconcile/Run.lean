import TradeLedger.Ledger.Desk
/-!
# A reconciliation run

A run takes every trade closed within the lookback, oldest close first, and asks for its closed
positions over its lifetime, widened by the padding. The best record within the strict
tolerances is taken, else within the relaxed ones; close ids recorded on the listed trades are
claimed for them, and a match claims its id for the rest of the run. A figure off the stored
one by more than the threshold is rounded to eight places, stored unless the run is dry, and
listed. A trade that fails counts as failed, unless the context has ended.

## Main definitions

* `Desk.matchRecord`: the record a trade is matched to.
* `Desk.reconcile`: a whole run.
-/

namespace TradeLedger

def Report.runRow (rep : Report) : RunRow :=
  { id := rep.runId, startedAt := rep.startedAt, finishedAt := rep.finishedAt,
    lookbackSeconds := rep.lookback.tdiv Duration.perSecond, dryRun := rep.dryRun,
    examined := rep.examined, matched := rep.matched, updated := rep.updated,
    unmatched := rep.unmatched, failed := rep.failed }

/-- The audit row of a correction of a finished run. -/
def Report.correctionRow (rep : Report) (c : Correction) : CorrectionRow :=
  { runId := rep.runId, tradeId := c.tradeId, closeId := c.closeId, oldPnl := c.oldPnl,
    newPnl := c.newPnl, relaxed := c.relaxed, createdAt := rep.finishedAt }

namespace Desk

/-- The failure of a run asked for while another is going on. -/
def runInProgress : Fault := { kind := .runInProgress, text := "reconciliation already running" }

/-- The reconciler. -/
def engine : DeskM Reconciler := do return (← get).reconciler

/-- Change the reconciler. -/
def adjust (f : Reconciler → Reconciler) : DeskM Unit :=
  modify fun d => { d with reconciler := f d.reconciler }

/-- Change the figures of the current run. -/
def count (f : Report → Report) : DeskM Unit := adjust fun r => { r with report := f r.report }

/-- The failure of the run's context once it has ended: cancelled, or past its deadline. -/
def contextFault (r : Reconciler) : Option Fault :=
  if r.context.cancelled then some (Fault.plain "context canceled")
  else if r.pacer.overdue r.context.deadline then some (Fault.plain "context deadline exceeded")
  else none

/-- Fail when the run's context has ended. -/
def checkContext : DeskM Unit := do
  match contextFault (← engine) with
  | some f => throw f
  | none => pure ()

/-- Wait for the pacer's token. -/
def pace : DeskM Unit := do
  checkContext
  let r ← engine
  match r.pacer.wait r.context.deadline with
  | .ok p => adjust fun r => { r with pacer := p }
  | .error f => throw f

/-- Ask the history source for the closed positions of a symbol over a span. The question is
kept, and ends the context when the context is set to end there. -/
def askHistory (symbol : String) (start stop : Int) : DeskM (List Record) := do
  adjust fun r => { r with
    asked := r.asked ++ [⟨symbol, start, stop⟩]
    context := if r.context.cancelOnHistory then { r.context with cancelled := true } else r.context }
  match (← engine).history.query symbol start stop with
  | .ok rs => pure rs
  | .error f => throw (f.wrap "position history: ")

/-- Ask a funding source for the net funding of a symbol over a span; the question is kept. -/
def askFunding (src : FundingSource) (symbol : String) (start stop : Instant) : DeskM Float := do
  adjust fun r => { r with fundingAsked := r.fundingAsked ++ [⟨symbol, start.toMs, stop.toMs⟩] }
  match src.query symbol start.toMs stop.toMs with
  | .ok x => pure x
  | .error f => throw (f.wrap "funding lookup: ")

/-- Whether a close id may go to a trade: it is unclaimed or already the trade's. -/
def usable (claimed : List (String × String)) (tradeId closeId : String) : Bool :=
  match claimed.lookup closeId with
  | none => true
  | some owner => owner == tradeId

/-- The best record for a trade: within the strict tolerances, else within the relaxed ones,
with whether the relaxed ones were needed. -/
def matchRecord (cfg : ReconcileConfig) (t : Trade) (records : List Record)
    (ok : String → Bool) : Option (Record × Bool) :=
  match bestMatch t records cfg.strict ok with
  | some r => some (r, false)
  | none => (bestMatch t records cfg.relaxed ok).map fun r => (r, true)

/-- The funding of a matched record: the record's own unless it has none and a funding source
is there. -/
def fundingOf (t : Trade) (rec : Record) : DeskM Float := do
  match (← engine).funding with
  | some src =>
    if rec.hasFunding then pure rec.funding
    else askFunding src t.symbol rec.openTime rec.closeTime
  | none => pure rec.funding

/-- Store and list the correction of a matched trade when the derived figure differs
materially from the stored one. -/
def correct (cfg : ReconcileConfig) (t : Trade) (rec : Record) (relaxed : Bool) (funding : Float) :
    DeskM Unit := do
  let derived ← exact (derivePnl t.side rec funding)
  if !(← exact (material t.realizedPnl derived cfg.materiality)) then return
  let newPnl := (derived.round 8).toFloat
  if !(← engine).report.dryRun then
    let now ← clock
    change .updateReconciled fun s => s.updateReconciled now t.id newPnl rec.closeId now
    count fun rep => { rep with updated := rep.updated + 1 }
  count fun rep => { rep with corrections := rep.corrections ++
    [{ tradeId := t.id, closeId := rec.closeId, oldPnl := t.realizedPnl, newPnl, relaxed }] }

/-- Reconcile one trade. A trade without a close time is unmatched. -/
def reconcileTrade (t : Trade) : DeskM Unit := do
  if t.closedAt.isZero then
    count fun rep => { rep with unmatched := rep.unmatched + 1 }
    return
  pace
  let cfg := (← engine).config
  let start := t.createdAt.toMs - Duration.toMs (max cfg.windowPadding cfg.relaxed.opening)
  let stop := t.closedAt.toMs + Duration.toMs (max cfg.windowPadding cfg.relaxed.closing)
  let records ← askHistory t.symbol start stop
  match matchRecord cfg t records (usable (← engine).claimed t.id) with
  | none => count fun rep => { rep with unmatched := rep.unmatched + 1 }
  | some (rec, relaxed) =>
    adjust fun r => { r with claimed := (rec.closeId, t.id) :: r.claimed }
    count fun rep => { rep with matched := rep.matched + 1,
                                relaxed := rep.relaxed + (if relaxed then 1 else 0) }
    correct cfg t rec relaxed (← fundingOf t rec)

/-- Reconcile each trade in turn; a failed trade is counted unless the context has ended. -/
def reconcileEach : List Trade → DeskM Unit
  | [] => pure ()
  | t :: rest => do
    checkContext
    count fun rep => { rep with examined := rep.examined + 1 }
    match ← attempt (reconcileTrade t) with
    | .ok () => pure ()
    | .error _ =>
      checkContext
      count fun rep => { rep with failed := rep.failed + 1 }
    reconcileEach rest

/-- Give a statement to the audit trail's batch writer, if there is one. -/
def audit (op : WriteOp Statement) : DeskM Unit :=
  modify fun d =>
    match d.reconciler.auditor with
    | none => d
    | some w =>
      let (w, s) := w.write Store.commitBatch d.store op
      { d with store := s, reconciler := { d.reconciler with auditor := some w } }

/-- The audit rows of a finished run: the run, then each correction. -/
def recordRun (rep : Report) : DeskM Unit := do
  audit ⟨"reconciliation_runs", .insertRun rep.runRow⟩
  for c in rep.corrections do
    audit ⟨"reconciliation_corrections", .insertCorrection (rep.correctionRow c)⟩

/-- The close ids already recorded on trades, each with its trade; a later trade's claim
comes first. -/
def recordedClaims (trades : List Trade) : List (String × String) :=
  (trades.filter (·.reconciledCloseId != "")).reverse.map fun t => (t.reconciledCloseId, t.id)

/-- The body of a run under id `runId`. -/
def runBody (runId : String) (opts : RunOptions) : DeskM Report := do
  let lookback := if opts.lookback ≤ 0 then 24 * 3600 * Duration.perSecond else opts.lookback
  let started ← clock
  adjust fun r => { r with
    report := { runId, startedAt := started, lookback, dryRun := opts.dryRun }
    claimed := [] }
  let since := started.addMs (-Duration.toMs lookback)
  let trades ← within "reconcile: list closed trades: "
    (read .listClosed (·.closedSince opts.traderId since))
  adjust fun r => { r with claimed := recordedClaims trades }
  reconcileEach trades
  let finished ← clock
  count fun rep => { rep with finishedAt := finished }
  let rep := (← engine).report
  tally fun m => { m with reconcileUpdates := m.reconcileUpdates + rep.updated,
                          reconcileFailures := m.reconcileFailures + rep.failed }
  recordRun rep
  pure rep

/-- A whole run under id `runId`, refused while another run is going on. The run is over
however it ends. -/
def reconcile (runId : String) (opts : RunOptions) : DeskM Report := do
  if (← engine).running then throw runInProgress
  adjust fun r => { r with running := true }
  let result ← tryCatch (Except.ok <$> runBody runId opts) fun f => pure (.error f)
  adjust fun r => { r with running := false }
  match result with
  | .ok rep => pure rep
  | .error f => throw f

end Desk

end TradeLedger
