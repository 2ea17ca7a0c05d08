import TradeLedger.Sql.Syntax
/-!
# Tables and the catalog

A table is its columns (type, collation, null rule, default), its keys, its checks, and its rows
by rowid. No two rows share a key's values under the columns' collations; a key with a null
never clashes. The catalog holds the tables, indexes, views and triggers, found by names without
regard to ASCII case.

## Main definitions

* `SqlTable`, `Catalog`: a table and the catalog.
-/

namespace TradeLedger

/-- Whether two names are the same name: equal but for the case of ASCII letters. -/
def sameName (a b : String) : Bool := a.map Char.toUpper == b.map Char.toUpper

structure SqlColumn where
  name : String
  declared : String
  affinity : Affinity
  notNull : Option ConflictRule := none
  default : Option SqlExpr := none
  collation : Collation := .binary
  generated : Option SqlExpr := none
  deriving Inhabited

/-- Values that no two rows may share in the listed columns, with the rule for a clash, and
whether it is the primary key. -/
structure TableKey where
  columns : List Nat
  rule : ConflictRule
  primary : Bool
  /-- the unique index that made the key, if one did -/
  index : Option String := none
  deriving Repr, Inhabited

/-- A row: its rowid and its values, one per column. -/
structure SqlRow where
  rowid : Int
  values : Array SqlValue
  deriving Inhabited

structure SqlTable where
  name : String
  columns : Array SqlColumn
  keys : List TableKey := []
  /-- the column that names the rowid, if one is declared `INTEGER PRIMARY KEY` -/
  rowidColumn : Option Nat := none
  /-- the rule for a clash of rowids -/
  rowidRule : ConflictRule := .abort
  autoIncrement : Bool := false
  checks : List SqlExpr := []
  withoutRowid : Bool := false
  strict : Bool := false
  rows : Array SqlRow := #[]
  /-- the greatest rowid the table ever held, for `AUTOINCREMENT` -/
  highest : Int := 0
  deriving Inhabited

/-- An index: its table and columns, whether it is unique, and the rows it covers. -/
structure SqlIndex where
  name : String
  table : String
  columns : List IndexedColumn
  unique : Bool
  filter : Option SqlExpr
  deriving Inhabited

/-- A view: its column names, if given, and its query. -/
structure SqlView where
  name : String
  columns : List String
  query : SqlQuery
  deriving Inhabited

/-- A trigger: only its name and table are kept. -/
structure SqlTrigger where
  name : String
  table : String
  deriving Inhabited

/-- The catalog: tables, indexes, views and triggers, in the order they were made. -/
structure Catalog where
  tables : List SqlTable := []
  indexes : List SqlIndex := []
  views : List SqlView := []
  triggers : List SqlTrigger := []
  deriving Inhabited

namespace SqlTable

/-- The position of a column by name. -/
def columnIndex? (t : SqlTable) (n : String) : Option Nat :=
  t.columns.findIdx? (sameName ·.name n)

/-- Whether two values are the same key value in a column: neither is null, and they are
equal under the column's collation. -/
def sameKeyValue (c : SqlColumn) (a b : SqlValue) : Bool :=
  match a, b with
  | .null, _ => false
  | _, .null => false
  | a, b => SqlValue.order c.collation a b == .eq

/-- Whether two rows share a key. -/
def shareKey (t : SqlTable) (k : TableKey) (a b : Array SqlValue) : Bool :=
  k.columns.all fun i =>
    match t.columns[i]?, a[i]?, b[i]? with
    | some c, some x, some y => sameKeyValue c x y
    | _, _, _ => false

def rowWithId? (t : SqlTable) (id : Int) : Option SqlRow := t.rows.find? (·.rowid == id)

/-- The next rowid: one more than the greatest, or than the greatest ever held when the
table counts with `AUTOINCREMENT`. -/
def nextRowid (t : SqlTable) : Int :=
  let top := t.rows.foldl (fun m r => max m r.rowid) 0
  (if t.autoIncrement then max top t.highest else top) + 1

/-- The table with a row put in its place by rowid. -/
def insertRow (t : SqlTable) (r : SqlRow) : SqlTable :=
  let before := t.rows.toList.filter (·.rowid < r.rowid)
  let after := t.rows.toList.filter (r.rowid < ·.rowid)
  { t with rows := (before ++ [r] ++ after).toArray, highest := max t.highest r.rowid }

/-- The table without the row of a rowid. -/
def deleteRow (t : SqlTable) (id : Int) : SqlTable :=
  { t with rows := t.rows.filter (·.rowid != id) }

/-- The words naming a key's columns in a failure: `table.column`, separated by commas. -/
def keyDetail (t : SqlTable) (k : TableKey) : String :=
  ", ".intercalate (k.columns.map fun i =>
    t.name ++ "." ++ ((t.columns[i]?.map (·.name)).getD ""))

end SqlTable

namespace Catalog

def table? (c : Catalog) (n : String) : Option SqlTable := c.tables.find? (sameName ·.name n)

def view? (c : Catalog) (n : String) : Option SqlView := c.views.find? (sameName ·.name n)

def index? (c : Catalog) (n : String) : Option SqlIndex := c.indexes.find? (sameName ·.name n)

def trigger? (c : Catalog) (n : String) : Option SqlTrigger := c.triggers.find? (sameName ·.name n)

/-- The catalog with a table replaced by name. -/
def putTable (c : Catalog) (t : SqlTable) : Catalog :=
  { c with tables := c.tables.map fun o => if sameName o.name t.name then t else o }

end Catalog

end TradeLedger
