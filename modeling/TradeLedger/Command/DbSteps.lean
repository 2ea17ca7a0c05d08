import TradeLedger.Ledger.Schema
import TradeLedger.Command.Steps
/-!
# The database command

Opening the ledger's database, running statements that prepare it, and migrating it one or more
times; the answer gives the failure of each migration, the trades table's columns and the table
names. An empty path is refused, and a path whose directory cannot be made fails to open.
Migrating no database at all fails, while closing none does nothing.

## Main definitions

* `db`: the command's answer.
-/

namespace TradeLedger

namespace Command

/-- The failure of opening a database at one of the command's paths, if it fails. -/
def openFailure : String → Option String
  | "" => some "database path is empty"
  | "blocked" => some "create db directory: mkdir <tmp>/blocker: not a directory"
  | _ => none

/-- Run preparing statements in order; the first refusal stops them. -/
def prepare (db : SqlDatabase) : List String → Except String SqlDatabase
  | [] => pure db
  | stmt :: rest =>
    match db.exec stmt [] with
    | (db, none) => prepare db rest
    | (_, some e) => .error e.text

/-- Migrate `n` times, with the failure of each migration. -/
def migrateTimes (db : SqlDatabase) : Nat → SqlDatabase × List Json
  | 0 => (db, [])
  | n + 1 =>
    let (db, failure) := Schema.migrate db
    let answer := match failure with
      | some f => errorAnswer f.kind.name f.text
      | none => .null
    let (db, rest) := migrateTimes db n
    (db, answer :: rest)

/-- `db`: open a database, prepare it, and migrate it. -/
def db (j : Json) : Input Json := do
  if ← Input.flag j "migrate_nil" then
    return .obj [("close_nil", .null), ("migrate", errorAnswer "error" "database is not initialized")]
  let path ← Input.text j "path"
  if let some e := openFailure path then
    return .obj [("open", errorAnswer "error" e)]
  let statements ← Input.texts j "pre_sql"
  let db ← match prepare {} statements with
    | .ok db => pure db
    | .error e => throw ("pre_sql failed: " ++ e)
  let times ← Input.intOr j "migrations" 1
  let (db, migrations) := migrateTimes db times.toNat
  pure (.obj [("open", .null), ("migrations", .arr migrations),
    ("trades_columns", Json.ofStrings (db.columnsOf "trades")),
    ("tables", Json.ofStrings (Schema.tables db))])

end Command

end TradeLedger
