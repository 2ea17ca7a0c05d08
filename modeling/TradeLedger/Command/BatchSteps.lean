import TradeLedger.Ledger.Schema
import TradeLedger.Ledger.Audit
import TradeLedger.Command.Steps
import TradeLedger.Command.MarketSteps
/-!
# The batch writer command

A batch writer over a migrated ledger database, driven by steps: statements with their
arguments, flushes, closing the writer or the database, and the counters. A batch is one
transaction: the first refused statement rolls it back and fails it. A closed database runs no
batch, and a wait finds the buffer flushed only when the writer flushes in the background.

## Main definitions

* `BatchRun`: the writer and database a run drives.
* `batchStep`: one step.
-/

namespace TradeLedger

/-- A statement's text with the values of its parameters; none when an argument has no value
the database can take. -/
structure SqlCall where
  text : String
  args : Option (List SqlValue)
  deriving Inhabited

/-- An argument of a statement from its JSON form: a number is an integer when its text is one
that fits in 64 bits, and a real otherwise; a truth value is 1 or 0. An array or an object is
no value the database takes. -/
def SqlValue.ofJson : Json → Option SqlValue
  | .null => some .null
  | .str s => some (.text s)
  | .bool b => some (.integer (if b then 1 else 0))
  | .num t =>
    match SqlNumber.readInteger t.toList with
    | (i, 0) => if t.toList.all (fun c => c.isDigit || c == '-') then some (.integer i)
      else some (.real (SqlNumber.readReal t.toList).value)
    | _ => some (.real (SqlNumber.readReal t.toList).value)
  | .arr _ => none
  | .obj _ => none

/-- The JSON form of a batch writer's counters. -/
def BatchStats.toJson (s : BatchStats) (extra : List (String × Json)) : Json :=
  .obj ([("total_writes", Json.ofNat s.totalWrites), ("total_batches", Json.ofNat s.totalBatches),
    ("total_errors", Json.ofNat s.totalErrors), ("last_batch_size", Json.ofNat s.lastBatchSize)] ++
    extra)

namespace Command

/-- The batch writer command's state: the writer, the database, whether the database was
closed, and whether the writer flushes in the background. -/
structure BatchRun where
  writer : BatchWriter SqlCall
  db : SqlDatabase
  closed : Bool := false
  background : Bool
  deriving Inhabited

/-- The answer of a flush or close. -/
def flushAnswer : Option Fault → Json
  | some f => .obj [("error", .str f.text)]
  | none => okAnswer

/-- The answer with the number of buffered statements. -/
def pendingAnswer (w : BatchWriter SqlCall) : Json := .obj [("pending", Json.ofNat w.pending)]

/-- Run the statements of a batch in a transaction: the first refusal rolls it back, else it is
committed. -/
def runSqlOps (db : SqlDatabase) : List (WriteOp SqlCall) → SqlDatabase × Option Fault
  | [] =>
    match db.exec "COMMIT" [] with
    | (db, none) => (db, none)
    | (db, some e) => (db, some (Fault.plain ("commit audit batch: " ++ e.text)))
  | op :: rest =>
    let refused (db : SqlDatabase) :=
      ((db.exec "ROLLBACK" []).1,
        some (Fault.plain ("audit write " ++ op.table ++ ": " ++ Schema.sqlErrorMarker)))
    match op.statement.args with
    | none => refused db
    | some args =>
      match db.exec op.statement.text args with
      | (db, none) => runSqlOps db rest
      | (db, some _) => refused db

/-- Run a batch as one transaction of the database, unless the database was closed. -/
def runSqlBatch (closed : Bool) (ops : List (WriteOp SqlCall)) (db : SqlDatabase) :
    SqlDatabase × Option Fault :=
  if closed then (db, some (Fault.plain ("begin audit batch: " ++ Store.closedText)))
  else
    match db.exec "BEGIN" [] with
    | (db, none) => runSqlOps db ops
    | (db, some e) => (db, some (Fault.plain ("begin audit batch: " ++ e.text)))

def batchStep (b : BatchRun) (j : Json) : Input (BatchRun × Json) := do
  let run := runSqlBatch b.closed
  match ← Input.text j "op" with
  | "write" =>
    let table ← Input.text j "table"
    let query ← Input.text j "query"
    let args := (← Input.list j "args").mapM SqlValue.ofJson
    let (w, db) := b.writer.write run b.db ⟨table, ⟨query, args⟩⟩
    pure ({ b with writer := w, db }, pendingAnswer w)
  | "flush" =>
    let (w, db, failure) := b.writer.flush run b.db
    pure ({ b with writer := w, db }, flushAnswer failure)
  | "close" =>
    let (w, db, failure) := b.writer.close run b.db
    pure ({ b with writer := w, db }, flushAnswer failure)
  | "close_db" => pure ({ b with closed := true }, okAnswer)
  | "pending" => pure (b, pendingAnswer b.writer)
  | "stats" =>
    let st := b.writer.stats
    pure (b, st.toJson [("flushed", .bool (0 < st.totalBatches))])
  | "await_flush" =>
    let wanted ← Input.intOr j "batches" 1
    let (w, db) := if b.background && !b.writer.closed then
        let (w, db, _) := b.writer.flush run b.db
        (w, db)
      else (b.writer, b.db)
    let done := w.pending == 0 && decide (wanted ≤ (w.stats.totalBatches : Int))
    pure ({ b with writer := w, db }, .obj [("flushed", .bool done)])
  | "count" =>
    let table ← Input.text j "table"
    if !(["trades", "reconciliation_runs", "reconciliation_corrections"].contains table) then
      throw ("unknown table " ++ quoteText table)
    match b.db.rowCount table with
    | .ok n => pure (b, .obj [("count", Json.ofNat n)])
    | .error e => pure (b, .obj [("error", .str e.text)])
  | _ => unknownStep "batch_writer" j

/-- `batch_writer`: a batch writer over an empty ledger, driven by steps. -/
def batchWriter (j : Json) : Input Json := do
  let interval ← Input.int j "interval_ms"
  if interval < 0 then throw "interval_ms must be 0 or at least 1"
  let background := 0 < interval || (← Input.flag j "default_interval")
  let run : BatchRun :=
    { writer := BatchWriter.new (← Input.int j "max_size"), db := (Schema.migrate {}).1, background }
  pure (stepsAnswer (runSteps batchStep run (← Input.list j "ops")).2)

end Command

end TradeLedger
