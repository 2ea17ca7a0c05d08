import TradeLedger.Ledger.Store
/-!
# The audit trail and its batch writer

Finished reconciliation runs leave audit rows: one per run and one per correction. A batch
writer buffers the statements and runs the buffer as one batch when it reaches its size, when
asked to flush, and on close; a failed batch counts as one error. Statements given to a closed
writer are dropped. A statement repeating a run id or a corrected trade is refused.

## Main definitions

* `Statement`: an audit row to write.
* `BatchWriter`: the writer, with `write`, `flush` and `close`.
-/

namespace TradeLedger

/-- A statement of the audit trail. -/
inductive Statement where
  | insertRun (r : RunRow)
  | insertCorrection (c : CorrectionRow)
  /-- a statement the database runs without a change the ledger keeps -/
  | untracked
  /-- a statement the database refuses -/
  | refused
  deriving Repr, Inhabited

/-- A buffered statement and the table it writes. -/
structure WriteOp (α : Type) where
  table : String
  statement : α
  deriving Repr, Inhabited

namespace Store

/-- The marker of the database's own text for a refused statement. -/
def sqlErrorText : String := "<sql error>"

/-- Run one statement, or `none` when the database refuses it. -/
def execute (s : Store) : Statement → Option Store
  | .insertRun r =>
    if s.runs.any (·.id == r.id) then none else some { s with runs := s.runs ++ [r] }
  | .insertCorrection c =>
    if s.corrections.any fun o => o.runId == c.runId && o.tradeId == c.tradeId then none
    else some { s with corrections := s.corrections ++ [c] }
  | .untracked => some s
  | .refused => none

/-- Run the statements in order, stopping at the first refusal. -/
def executeAll (s : Store) : List (WriteOp Statement) → Except Fault Store
  | [] => pure s
  | op :: rest =>
    match s.execute op.statement with
    | some s' => executeAll s' rest
    | none => .error (Fault.plain ("audit write " ++ op.table ++ ": " ++ sqlErrorText))

/-- Run a batch as one transaction: all of it, or on a failure nothing. -/
def runBatch (s : Store) (ops : List (WriteOp Statement)) : Except Fault Store := do
  if s.closed then throw (Fault.plain ("begin audit batch: " ++ closedText))
  s.executeAll ops

/-- Run a batch as one transaction, keeping the ledger as it was when the batch fails. -/
def commitBatch (ops : List (WriteOp Statement)) (s : Store) : Store × Option Fault :=
  match s.runBatch ops with
  | .ok s' => (s', none)
  | .error f => (s, some f)

/-- Whether correction `a` is read before `b`: by trade, time, close id, old and new figure. -/
def correctionBefore (a b : CorrectionRow) : Bool :=
  if a.tradeId != b.tradeId then decide (a.tradeId < b.tradeId)
  else if a.createdAt.toMs != b.createdAt.toMs then decide (a.createdAt.toMs < b.createdAt.toMs)
  else if a.closeId != b.closeId then decide (a.closeId < b.closeId)
  else if a.oldPnl != b.oldPnl then a.oldPnl < b.oldPnl
  else !(b.newPnl < a.newPnl)

/-- Every correction, by trade, time, close id, old and new figure. -/
def corrected (s : Store) : Except Fault (List CorrectionRow) := do
  s.guard "query reconciliation corrections: "
  pure (s.corrections.mergeSort correctionBefore)

end Store

/-- The counters of a batch writer. -/
structure BatchStats where
  totalWrites : Nat := 0
  totalBatches : Nat := 0
  totalErrors : Nat := 0
  lastBatchSize : Nat := 0
  deriving Repr, Inhabited

/-- What runs a batch of statements against a state: the state after it, and the failure of
the batch, if it failed. -/
abbrev BatchRunner (α σ : Type) := List (WriteOp α) → σ → σ × Option Fault

/-- A batch writer: the size that triggers a flush, the buffer, the counters, and whether it
was closed. -/
structure BatchWriter (α : Type) where
  maxSize : Nat := 50
  buffer : List (WriteOp α) := []
  stats : BatchStats := {}
  closed : Bool := false
  deriving Repr, Inhabited

namespace BatchWriter

/-- A writer flushing at `maxSize` statements; a size that is not positive means 50. -/
def new {α : Type} (maxSize : Int) : BatchWriter α :=
  { maxSize := if maxSize ≤ 0 then 50 else maxSize.toNat }

/-- The number of buffered statements. -/
def pending {α : Type} (w : BatchWriter α) : Nat := w.buffer.length

/-- Run the buffer as one batch. An empty buffer is no batch. The buffer is emptied either
way; a failed batch counts as an error and none of its writes. -/
def flush {α σ : Type} (w : BatchWriter α) (run : BatchRunner α σ) (s : σ) :
    BatchWriter α × σ × Option Fault :=
  match w.buffer with
  | [] => (w, s, none)
  | ops =>
    let n := ops.length
    let counted := { w.stats with totalBatches := w.stats.totalBatches + 1, lastBatchSize := n }
    match run ops s with
    | (s', none) =>
      ({ w with buffer := [], stats := { counted with totalWrites := counted.totalWrites + n } },
        s', none)
    | (s', some f) =>
      ({ w with buffer := [], stats := { counted with totalErrors := counted.totalErrors + 1 } },
        s', some f)

/-- Buffer a statement, flushing when the buffer is full; a failure of that flush is only
noted. A closed writer drops the statement. -/
def write {α σ : Type} (w : BatchWriter α) (run : BatchRunner α σ) (s : σ) (op : WriteOp α) :
    BatchWriter α × σ :=
  if w.closed then (w, s)
  else
    let w := { w with buffer := w.buffer ++ [op] }
    if w.maxSize ≤ w.buffer.length then
      let (w, s, _) := w.flush run s
      (w, s)
    else (w, s)

/-- Close the writer and flush what is left; closing twice does nothing. -/
def close {α σ : Type} (w : BatchWriter α) (run : BatchRunner α σ) (s : σ) :
    BatchWriter α × σ × Option Fault :=
  if w.closed then (w, s, none) else { w with closed := true }.flush run s

end BatchWriter

end TradeLedger
