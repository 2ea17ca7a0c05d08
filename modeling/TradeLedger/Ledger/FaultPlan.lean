import TradeLedger.Ledger.Store
/-!
# Staged store failures

For exercising the services' failure paths, each store method can carry a staged failure: its
first `skip` calls pass, the next `times` calls fail with the staged text, and later calls pass
again; `times = 0` fails every call after the skipped ones. The text `stale` stands for a lost
versioned write and `not_found` for a missing row.

## Main definitions

* `StoreMethod`, `StagedFailure`, `FaultPlan`: the methods and their staged failures.
* `FaultPlan.trip`: counting a call.
-/

namespace TradeLedger

/-- The store methods the services call. -/
inductive StoreMethod where
  | getTrade
  | findByOrder
  | recentRaw
  | backfill
  | updateFill
  | listLive
  | applyMerge
  | markMerged
  | markStatus
  | closeTrade
  | listClosed
  | updateReconciled
  deriving Repr, DecidableEq, Inhabited

namespace StoreMethod

/-- Every method. -/
def all : List StoreMethod :=
  [.getTrade, .findByOrder, .recentRaw, .backfill, .updateFill, .listLive, .applyMerge,
    .markMerged, .markStatus, .closeTrade, .listClosed, .updateReconciled]

def name : StoreMethod → String
  | .getTrade => "GetTrade"
  | .findByOrder => "FindTradeByExternalOrderID"
  | .recentRaw => "ListRecentRawResponses"
  | .backfill => "BackfillOrderID"
  | .updateFill => "UpdateTradeFill"
  | .listLive => "ListLiveTrades"
  | .applyMerge => "ApplyMerge"
  | .markMerged => "MarkMerged"
  | .markStatus => "MarkStatus"
  | .closeTrade => "CloseTrade"
  | .listClosed => "ListClosedTrades"
  | .updateReconciled => "UpdateReconciledPnL"

def ofName? (n : String) : Option StoreMethod := all.find? (·.name == n)

end StoreMethod

structure StagedFailure where
  error : String
  times : Nat
  skip : Nat
  calls : Nat := 0
  deriving Repr, Inhabited

namespace StagedFailure

/-- The failure a call meets. -/
def fault (f : StagedFailure) : Fault :=
  match f.error with
  | "stale" => Store.staleWrite
  | "not_found" => Store.notFound
  | text => Fault.plain text

/-- Whether calls can still fail. -/
def pending (f : StagedFailure) : Bool := f.times == 0 || f.calls < f.skip + f.times

/-- Count one call; whether it fails. -/
def call (f : StagedFailure) : StagedFailure × Bool :=
  let n := f.calls + 1
  ({ f with calls := n }, f.skip < n && (f.times == 0 || n ≤ f.skip + f.times))

end StagedFailure

/-- The staged failures, at most one per method. -/
structure FaultPlan where
  staged : List (StoreMethod × StagedFailure) := []
  deriving Repr, Inhabited

namespace FaultPlan

/-- Stage a failure for a method, replacing any earlier one. -/
def stage (p : FaultPlan) (m : StoreMethod) (f : StagedFailure) : FaultPlan :=
  { staged := (p.staged.filter (·.1 != m)) ++ [(m, f)] }

/-- The names of the methods whose calls can still fail, in order. -/
def pendingNames (p : FaultPlan) : List String :=
  ((p.staged.filter (·.2.pending)).map (·.1.name)).mergeSort fun a b => decide (a ≤ b)

/-- Count a call of a method: the plan afterwards, and the failure the call meets, if any. -/
def trip (p : FaultPlan) (m : StoreMethod) : FaultPlan × Option Fault :=
  match p.staged.find? (·.1 == m) with
  | none => (p, none)
  | some (_, f) =>
    let (f', fails) := f.call
    ({ staged := p.staged.map fun e => if e.1 == m then (m, f') else e },
      if fails then some f.fault else none)

end FaultPlan

end TradeLedger
