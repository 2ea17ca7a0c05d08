import TradeLedger.Command.LedgerSteps
import TradeLedger.Reconcile.Run
import TradeLedger.Command.BatchSteps
/-!
# Reconciliation steps of the ledger command

A reconciliation step builds a reconciler from the request, with its tuning, its source of
closed positions (given records, the venue's fills, or a failing venue), an optional funding
source, an optional batch writer and the run's context, and runs it once over the ledger. The
answer gives the report or the failure, the questions put to the sources, and the writer's
counters. A periodic start runs once, then again with a context ended by the time it reads its
trades.

## Main definitions

* `reconcilerOf`: the reconciler a request describes.
* `reconcileRun`: one run and its answer.
-/

namespace TradeLedger

/-- The reconciler's tuning from its JSON form. -/
def ReconcileConfig.ofJson (j : Json) : Input ReconcileConfig := do
  pure {
    strict := ⟨← Input.duration j "strict_open_ms", ← Input.duration j "strict_close_ms"⟩
    relaxed := ⟨← Input.duration j "relaxed_open_ms", ← Input.duration j "relaxed_close_ms"⟩
    materiality := ← Input.float j "materiality"
    windowPadding := ← Input.duration j "window_padding_ms"
    queryInterval := ← Input.duration j "query_interval_ms" }

/-- The JSON form of a question put to a source. -/
def Query.toJson (q : Query) : Json :=
  .obj [("symbol", .str q.symbol), ("start", Json.ofInt q.start), ("end", Json.ofInt q.stop)]

def Correction.toJson (c : Correction) : Json :=
  .obj [("trade_id", .str c.tradeId), ("close_id", .str c.closeId),
    ("old_pnl", Json.ofFloat c.oldPnl), ("new_pnl", Json.ofFloat c.newPnl),
    ("relaxed", .bool c.relaxed)]

/-- The JSON form of a report; the run id is given by its length. -/
def Report.toJson (r : Report) : Json :=
  .obj [("started_at", Json.ofTime r.startedAt), ("finished_at", Json.ofTime r.finishedAt),
    ("lookback_ms", Json.ofInt (Duration.toMs r.lookback)), ("dry_run", .bool r.dryRun),
    ("examined", Json.ofNat r.examined), ("matched", Json.ofNat r.matched),
    ("relaxed", Json.ofNat r.relaxed), ("updated", Json.ofNat r.updated),
    ("unmatched", Json.ofNat r.unmatched), ("failed", Json.ofNat r.failed),
    ("corrections", .arr (r.corrections.map Correction.toJson)),
    ("run_id_length", Json.ofNat r.runId.length)]

def RunRow.toJson (r : RunRow) : Json :=
  .obj [("id_length", Json.ofNat r.id.length), ("started_at", Json.ofTime r.startedAt),
    ("finished_at", Json.ofTime r.finishedAt), ("lookback_ms", Json.ofInt (r.lookbackSeconds * 1000)),
    ("dry_run", .bool r.dryRun), ("examined", Json.ofNat r.examined),
    ("matched", Json.ofNat r.matched), ("updated", Json.ofNat r.updated),
    ("unmatched", Json.ofNat r.unmatched), ("failed", Json.ofNat r.failed)]

def CorrectionRow.toJson (c : CorrectionRow) : Json :=
  .obj [("trade_id", .str c.tradeId), ("close_id", .str c.closeId),
    ("old_pnl", Json.ofFloat c.oldPnl), ("new_pnl", Json.ofFloat c.newPnl),
    ("relaxed", .bool c.relaxed), ("created_at", Json.ofTime c.createdAt)]

namespace Command

/-- The `n`-th run id the ledger makes up: 26 characters, as a run id has. -/
def runIdOf (n : Nat) : String := hexDigits 26 n

/-- Where a request's closed positions come from: a failing venue, the venue's fills, or the
given records. -/
def historySource (j : Json) : Input HistorySource := do
  let venueError ← Input.text j "venue_error"
  let historyError ← Input.text j "history_error"
  if !venueError.isEmpty then return .failing venueError
  if !historyError.isEmpty then return .failing historyError
  if (Input.arg? j "fills").isSome then
    return .fills (← (← Input.list j "fills").mapM Fill.ofJson)
  pure (.records (← (← Input.list j "records").mapM Record.ofJson))

/-- A request's funding source, if it names one. -/
def fundingSource (j : Json) : Input (Option FundingSource) := do
  if (Input.arg? j "funding_error").isSome then
    return some (.failing (← Input.text j "funding_error"))
  if (Input.arg? j "funding").isSome then return some (.amount (← Input.float j "funding"))
  pure none

/-- A request's batch writer for the audit trail, if it asks for one. -/
def auditWriter (j : Json) : Input (Option (BatchWriter Statement)) := do
  match Input.arg? j "audit" with
  | none => pure none
  | some a => pure (some (BatchWriter.new (← Input.int a "max_size")))

/-- The reconciler a request describes, with no run going on. -/
def reconcilerOf (j : Json) : Input Reconciler := do
  let config ← ReconcileConfig.ofJson (← Input.object j "config")
  pure (Reconciler.new config (← historySource j) (← fundingSource j) (← auditWriter j))

def runOptions (j : Json) : Input RunOptions := do
  pure { lookback := ← Input.duration j "lookback_ms", dryRun := ← Input.flag j "dry_run",
         traderId := ← Input.text j "trader_id" }

def runContext (j : Json) : Input RunContext := do
  let cancel ← Input.text j "cancel"
  let deadline ← match Input.arg? j "deadline_ms" with
    | none => pure none
    | some _ => do pure (some (← Input.duration j "deadline_ms"))
  pure { cancelled := cancel == "before", cancelOnHistory := cancel == "on_history", deadline }

/-- Run the reconciler once under a fresh run id. -/
def runOnce (r : LedgerRun) (opts : RunOptions) : LedgerRun × Except Fault Report :=
  let (res, d) := runDesk (Desk.reconcile (runIdOf r.runsStarted) opts) r.desk
  ({ r with desk := d, runsStarted := r.runsStarted + 1 }, res)

/-- Close the reconciler's batch writer, if any, with its counters and the failure of the last
flush as members. -/
def closeAuditor (r : LedgerRun) : LedgerRun × List (String × Json) :=
  let d := r.desk
  match d.reconciler.auditor with
  | none => (r, [])
  | some w =>
    let pending := w.pending
    let (w, s, failure) := w.close Store.commitBatch d.store
    let closeError := match failure with
      | some f => Json.str f.text
      | none => .null
    ({ r with desk := { d with store := s, reconciler := { d.reconciler with auditor := some w } } },
      [("audit_pending", Json.ofNat pending), ("audit", w.stats.toJson [("close_error", closeError)])])

/-- The questions put to the sources, as members; funding questions only with a funding
source. -/
def askedMembers (rec : Reconciler) : List (String × Json) :=
  [("history_queries", .arr (rec.asked.map Query.toJson))] ++
    match rec.funding with
    | some _ => [("funding_queries", .arr (rec.fundingAsked.map Query.toJson))]
    | none => []

/-- `reconcile`: one run of a reconciler the request describes. -/
def reconcileRun (r : LedgerRun) (j : Json) : Input (LedgerRun × Json) := do
  let rec ← reconcilerOf j
  let opts ← runOptions j
  let context ← runContext j
  let r := { r with desk := { r.desk with reconciler := { rec with context } } }
  let (r, res) := runOnce r opts
  let asked := askedMembers r.desk.reconciler
  let (r, audit) := closeAuditor r
  match res with
  | .ok rep => pure (r, .obj ([("report", rep.toJson)] ++ asked ++ audit))
  | .error f =>
    pure (r, .obj ([("error", .str f.kind.name), ("message", .str f.text)] ++ asked ++ audit))

/-- The longest loop interval a periodic start accepts, in milliseconds. -/
def periodicLimitMs : Int := 20

/-- `engine_start`: the reconciler started as a loop. A loop runs once; its next run finds the
loop's context ended once it has read its trades. With `overlap`, one more run is asked for
while the first is held, and its answer is given. -/
def engineStart (r : LedgerRun) (j : Json) : Input (LedgerRun × Json) := do
  let interval ← Input.int j "interval_ms"
  if periodicLimitMs < interval then throw "interval_ms must be at most 20"
  if interval ≤ 0 then
    return (r, .obj [("ran", .bool false), ("history_queries", .arr [])])
  let rec ← reconcilerOf j
  let opts ← runOptions j
  let overlapWanted ← Input.flag j "overlap"
  let r := { r with desk := { r.desk with reconciler := rec } }
  let (r, overlap) :=
    if overlapWanted then
      let busy := { r with desk := { r.desk with reconciler := { rec with running := true } } }
      let (r, res) := runOnce busy opts
      let answer := match res with
        | .ok rep => Json.obj [("report", rep.toJson)]
        | .error f => deskFault f
      ({ r with desk := { r.desk with reconciler := { r.desk.reconciler with running := false } } },
        [("overlap", answer)])
    else (r, [])
  let (r, _) := runOnce r opts
  let ended := { r.desk.reconciler.context with cancelled := true }
  let r := { r with desk := { r.desk with reconciler := { r.desk.reconciler with context := ended } } }
  let (r, _) := runOnce r opts
  let asked := r.desk.reconciler.asked
  let (r, _) := closeAuditor r
  pure (r, .obj ([("ran", .bool true), ("history_queries", .arr (asked.map Query.toJson))] ++
    overlap))

/-- A reconciliation step, or an audit query. -/
def reconcileStep? (r : LedgerRun) (j : Json) : Option (Input (LedgerRun × Json)) :=
  match Input.text j "op" with
  | .ok "reconcile" => some (reconcileRun r j)
  | .ok "engine_start" => some (engineStart r j)
  | .ok "runs" => some do
    let limit ← Input.int j "limit"
    pure (storeRead r (·.recentRuns limit) fun rs => .obj [("runs", .arr (rs.map RunRow.toJson))])
  | .ok "corrections" => some do
    pure (storeRead r Store.corrected fun cs =>
      .obj [("corrections", .arr (cs.map CorrectionRow.toJson))])
  | _ => none

end Command

end TradeLedger
