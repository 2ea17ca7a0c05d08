import TradeLedger.Reconcile.Pnl
import TradeLedger.Reconcile.Pacer
import TradeLedger.Venue.History
import TradeLedger.Ledger.Audit
/-!
# The reconciler

The reconciler corrects the stored realized profit of closed trades from the venue's record of
closed positions. Its tuning has two tolerances, a materiality threshold, a padding of the
history window and the pacing of the queries. Its collaborators answer questions: the venue's
closed positions of a symbol over a span, and optionally the funding of a symbol over a span.
Every question put to them is kept. A run is carried out under a context that may end.

## Main definitions

* `HistorySource`, `FundingSource`: the answers to each question.
* `Reconciler`: the tuning, collaborators and the state of a run.
* `Report`, `Correction`: what a run reports.
-/

namespace TradeLedger

/-- The tuning of the reconciler. -/
structure ReconcileConfig where
  strict : Tolerance := Tolerance.strict
  relaxed : Tolerance := Tolerance.relaxed
  materiality : Float := 0.01
  /-- widens the history window around a trade's lifetime -/
  windowPadding : Duration := 0
  /-- the least time between two history queries -/
  queryInterval : Duration := 0
  deriving Repr, Inhabited

/-- Whether a tolerance allows no drift at all, which stands for the standard one. -/
def Tolerance.unset (t : Tolerance) : Bool := t.opening == 0 && t.closing == 0

/-- The tuning with its gaps filled: standard tolerances for unset ones, one cent for a
threshold that is not positive, and no padding or pacing for negative ones. -/
def ReconcileConfig.withDefaults (c : ReconcileConfig) : ReconcileConfig where
  strict := if c.strict.unset then Tolerance.strict else c.strict
  relaxed := if c.relaxed.unset then Tolerance.relaxed else c.relaxed
  materiality := if c.materiality ≤ 0 then 0.01 else c.materiality
  windowPadding := max c.windowPadding 0
  queryInterval := max c.queryInterval 0

/-- A closed position of the venue as the reconciler reads it: the venue's realized figure is
always given, and funding is left to the funding source. -/
def Record.ofPosition (r : PositionRecord) : Record :=
  { closeId := r.closeId, symbol := r.symbol, side := r.side, openTime := r.openTime,
    closeTime := r.closeTime, openPrice := r.openPrice, closePrice := r.closePrice,
    size := r.size, realizedPnl := r.realizedPnl, hasRealized := true, fee := r.fee }

/-- Where the venue's closed positions come from: its answer to each question, the closed
positions of a symbol whose lifetime touches `[start, stop]` (unix ms). -/
structure HistorySource where
  query : String → Int → Int → Except Fault (List Record)

namespace HistorySource

/-- A venue that gives the same records for every question. -/
def records (rs : List Record) : HistorySource := ⟨fun _ _ _ => pure rs⟩

/-- Positions rebuilt from the venue's fills of the symbol within the span. -/
def fills (fs : List Fill) : HistorySource :=
  ⟨fun symbol start stop =>
    let inWindow := fs.filter fun f => f.symbol == symbol && decide (start ≤ f.time) &&
      decide (f.time ≤ stop)
    pure ((buildPositionHistory inWindow).map Record.ofPosition)⟩

/-- A venue that fails every question with this text. -/
def failing (text : String) : HistorySource := ⟨fun _ _ _ => .error (Fault.plain text)⟩

instance : Inhabited HistorySource := ⟨records []⟩

end HistorySource

/-- Where funding comes from: its answer to each question, the net funding of a symbol over a
span (unix ms). -/
structure FundingSource where
  query : String → Int → Int → Except Fault Float

/-- A source that gives the same net funding for every question. -/
def FundingSource.amount (x : Float) : FundingSource := ⟨fun _ _ _ => pure x⟩

/-- A source that fails every question with this text. -/
def FundingSource.failing (text : String) : FundingSource :=
  ⟨fun _ _ _ => .error (Fault.plain text)⟩

/-- One question put to a source: a symbol and a span in unix ms. -/
structure Query where
  symbol : String
  start : Int
  stop : Int
  deriving Repr, Inhabited, DecidableEq

/-- The context of a run: whether it was cancelled, whether the first history query cancels
it, and its deadline on the pacer's clock. -/
structure RunContext where
  cancelled : Bool := false
  cancelOnHistory : Bool := false
  deadline : Option Int := none
  deriving Repr, Inhabited

/-- A stored figure replaced by the one derived from the venue. -/
structure Correction where
  tradeId : String
  closeId : String
  oldPnl : Float
  newPnl : Float
  relaxed : Bool
  deriving Repr, Inhabited

/-- The summary of a run. -/
structure Report where
  runId : String := ""
  startedAt : Instant := none
  finishedAt : Instant := none
  lookback : Duration := 0
  dryRun : Bool := false
  examined : Nat := 0
  matched : Nat := 0
  relaxed : Nat := 0
  updated : Nat := 0
  unmatched : Nat := 0
  failed : Nat := 0
  corrections : List Correction := []
  deriving Repr, Inhabited

/-- Which trades a run looks at: those closed within the lookback (a day when it is not
positive), of one trader or of all; a dry run changes no trade. -/
structure RunOptions where
  lookback : Duration := 0
  dryRun : Bool := false
  traderId : String := ""
  deriving Repr, Inhabited

/-- The reconciler: its tuning and collaborators, its pacer, whether a run is going on, the
context and figures of the current run, the close ids claimed in it, and the questions put to
its sources. -/
structure Reconciler where
  config : ReconcileConfig := {}
  history : HistorySource := .records []
  funding : Option FundingSource := none
  auditor : Option (BatchWriter Statement) := none
  pacer : Pacer := {}
  running : Bool := false
  context : RunContext := {}
  report : Report := {}
  /-- close ids and the trades they belong to, the latest claim first -/
  claimed : List (String × String) := []
  asked : List Query := []
  fundingAsked : List Query := []
  deriving Inhabited

/-- A reconciler with its tuning's gaps filled. -/
def Reconciler.new (config : ReconcileConfig) (history : HistorySource)
    (funding : Option FundingSource) (auditor : Option (BatchWriter Statement)) : Reconciler :=
  let config := config.withDefaults
  { config, history, funding, auditor, pacer := { interval := config.queryInterval } }

end TradeLedger
