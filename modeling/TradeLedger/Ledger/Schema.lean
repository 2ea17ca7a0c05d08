import TradeLedger.Sql.Database
import TradeLedger.Fault
/-!
# The ledger's schema and its migration

The database a ledger opens may already hold tables, views and indexes, so the migration can be
run on any of them, and more than once: it creates what is missing, and then adds the columns
later releases added where the trades table lacks them. The first statement the database refuses
ends the migration, keeping what ran before.

## Main definitions

* `migrate`: one migration of a database.
-/

namespace TradeLedger

namespace Schema

/-- The statements of the schema, in order. -/
def statements : String :=
  "
PRAGMA journal_mode=WAL;

CREATE TABLE IF NOT EXISTS trades (
    id TEXT PRIMARY KEY,
    trader_id TEXT NOT NULL,
    symbol TEXT NOT NULL,
    side TEXT NOT NULL,
    size REAL NOT NULL DEFAULT 0,
    entry_price REAL NOT NULL DEFAULT 0,
    exit_price REAL NOT NULL DEFAULT 0,
    realized_pnl REAL NOT NULL DEFAULT 0,
    status TEXT NOT NULL,
    merged_into_trade_id TEXT,
    merged_trade_ids TEXT NOT NULL DEFAULT '',
    reason TEXT NOT NULL DEFAULT '',
    exchange_order_id TEXT NOT NULL DEFAULT '',
    client_order_id TEXT NOT NULL DEFAULT '',
    close_order_id TEXT NOT NULL DEFAULT '',
    raw_response TEXT NOT NULL DEFAULT '',
    entry_filled_qty REAL NOT NULL DEFAULT 0,
    entry_order_status TEXT NOT NULL DEFAULT '',
    exit_filled_qty REAL NOT NULL DEFAULT 0,
    exit_order_status TEXT NOT NULL DEFAULT '',
    last_event_at INTEGER NOT NULL DEFAULT 0,
    version INTEGER NOT NULL DEFAULT 0,
    reconciled_close_id TEXT NOT NULL DEFAULT '',
    reconciled_at DATETIME,
    created_at DATETIME NOT NULL,
    updated_at DATETIME NOT NULL,
    closed_at DATETIME
);

CREATE INDEX IF NOT EXISTS idx_trades_exchange_order ON trades(exchange_order_id);
CREATE INDEX IF NOT EXISTS idx_trades_client_order ON trades(client_order_id);
CREATE INDEX IF NOT EXISTS idx_trades_close_order ON trades(close_order_id);
CREATE INDEX IF NOT EXISTS idx_trades_live ON trades(trader_id, status, symbol);
CREATE INDEX IF NOT EXISTS idx_trades_created ON trades(created_at);

CREATE TABLE IF NOT EXISTS reconciliation_runs (
    id TEXT PRIMARY KEY,
    started_at DATETIME NOT NULL,
    finished_at DATETIME NOT NULL,
    lookback_seconds INTEGER NOT NULL,
    dry_run INTEGER NOT NULL DEFAULT 0,
    examined INTEGER NOT NULL DEFAULT 0,
    matched INTEGER NOT NULL DEFAULT 0,
    updated INTEGER NOT NULL DEFAULT 0,
    unmatched INTEGER NOT NULL DEFAULT 0,
    failed INTEGER NOT NULL DEFAULT 0
);

CREATE TABLE IF NOT EXISTS reconciliation_corrections (
    run_id TEXT NOT NULL,
    trade_id TEXT NOT NULL,
    close_id TEXT NOT NULL,
    old_pnl REAL NOT NULL,
    new_pnl REAL NOT NULL,
    relaxed INTEGER NOT NULL DEFAULT 0,
    created_at DATETIME NOT NULL,
    PRIMARY KEY (run_id, trade_id)
);
"

/-- The marker of the database's own text in a migration's failure. -/
def sqlErrorMarker : String := "<sql error>"

/-- Add a column to the trades table when it lacks it; the name is compared exactly. -/
def ensureColumn (db : SqlDatabase) (column definition : String) : SqlDatabase × Option Fault :=
  if (db.columnsOf "trades").contains column then (db, none)
  else
    match db.exec ("ALTER TABLE trades ADD COLUMN " ++ column ++ " " ++ definition) [] with
    | (db, none) => (db, none)
    | (db, some _) =>
      (db, some (Fault.plain ("alter table trades add column " ++ column ++ ": " ++ sqlErrorMarker)))

/-- The migration: the schema's statements, then the columns added since the first release.
A refusal keeps what ran before it. -/
def migrate (db : SqlDatabase) : SqlDatabase × Option Fault :=
  match db.exec statements [] with
  | (db, some _) => (db, some (Fault.plain ("apply schema: " ++ sqlErrorMarker)))
  | (db, none) =>
    match ensureColumn db "reconciled_close_id" "TEXT NOT NULL DEFAULT ''" with
    | (db, some f) => (db, some f)
    | (db, none) => ensureColumn db "reconciled_at" "DATETIME"

/-- The names of the tables, sorted. -/
def tables (db : SqlDatabase) : List String :=
  (db.catalog.tables.map (·.name)).mergeSort fun a b => decide (a ≤ b)

end Schema

end TradeLedger
