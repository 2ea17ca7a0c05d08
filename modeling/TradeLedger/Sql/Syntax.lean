import TradeLedger.Sql.Token
/-!
# Statements as trees

Expressions, queries, their sources and sort terms are one mutual family; the statements are
built from them. A parameter is its number: `?` takes the next one, `?N` takes `N`, and a named
parameter the number its name first got. A failure is a cause, and `SqlError.text` words it as
the database reports it, with the result code in brackets.

## Main definitions

* `SqlExpr`, `SqlQuery`, `SqlStatement`: the trees.
* `SqlError`: a failure.
-/

namespace TradeLedger

/-- A name, with the schema it is qualified by, if any. -/
structure QualifiedName where
  schema : Option String
  name : String
  deriving Inhabited, DecidableEq

/-- The prefix operators. -/
inductive UnaryOp where
  | negate
  | plus
  | not
  | bitNot
  deriving Repr, DecidableEq, Inhabited

/-- The infix operators that are not tests of membership or pattern. -/
inductive BinaryOp where
  | arith (op : SqlValue.ArithOp)
  | concat
  | eq
  | ne
  | lt
  | le
  | gt
  | ge
  | and
  | or
  | bitAnd
  | bitOr
  | shiftLeft
  | shiftRight
  /-- `IS`: equality under which two nulls are equal -/
  | is
  | isNot
  | extract (asText : Bool)
  deriving Repr, DecidableEq, Inhabited

/-- Pattern operators: `LIKE`, `GLOB`, `REGEXP`, `MATCH`. -/
inductive PatternOp where
  | like
  | glob
  | regexp
  | match
  deriving Repr, DecidableEq, Inhabited

/-- How two queries combine. -/
inductive CompoundOp where
  | union
  | unionAll
  | intersect
  | except
  deriving Repr, DecidableEq, Inhabited

/-- How two sources are joined. -/
inductive JoinKind where
  | inner
  | left
  | right
  | full
  | cross
  deriving Repr, DecidableEq, Inhabited

mutual

/-- An expression. -/
inductive SqlExpr where
  | value (v : SqlValue)
  | parameter (index : Nat)
  /-- a column by name, possibly qualified; a double-quoted name that names no column is a
  text -/
  | column (table : Option String) (name : String) (doubleQuoted : Bool)
  | unary (op : UnaryOp) (e : SqlExpr)
  | binary (op : BinaryOp) (a b : SqlExpr)
  | isNull (e : SqlExpr) (negated : Bool)
  | between (e lo hi : SqlExpr) (negated : Bool)
  | inList (e : SqlExpr) (items : List SqlExpr) (negated : Bool)
  | inQuery (e : SqlExpr) (q : SqlQuery) (negated : Bool)
  | exists (q : SqlQuery)
  | subquery (q : SqlQuery)
  | pattern (op : PatternOp) (e pat : SqlExpr) (escape : Option SqlExpr) (negated : Bool)
  | caseOf (operand : Option SqlExpr) (arms : List (SqlExpr × SqlExpr)) (otherwise : Option SqlExpr)
  | cast (e : SqlExpr) (type : String)
  | call (name : String) (distinct : Bool) (args : List SqlExpr) (filter : Option SqlExpr)
  /-- a function over all rows: `count(*)` -/
  | callAll (name : String) (filter : Option SqlExpr)
  | collate (e : SqlExpr) (name : String)
  | vector (items : List SqlExpr)
  /-- the current date or time, in the text of the named keyword -/
  | clock (keyword : String)
  deriving Inhabited

/-- A query: a select, rows of values, two queries combined, a query sorted and cut, or a
query with named subqueries. -/
inductive SqlQuery where
  | select (distinct : Bool) (columns : List ResultColumn) (source : Option SqlSource)
      (filter : Option SqlExpr) (groupBy : List SqlExpr) (having : Option SqlExpr)
  | values (rows : List (List SqlExpr))
  | compound (op : CompoundOp) (a b : SqlQuery)
  | ordered (q : SqlQuery) (orderBy : List OrderTerm) (limit offset : Option SqlExpr)
  | withTables (recursive : Bool) (tables : List CommonTable) (body : SqlQuery)
  deriving Inhabited

inductive ResultColumn where
  | all
  | allOf (table : String)
  | expr (e : SqlExpr) (aliasName : Option String)
  deriving Inhabited

/-- What a query reads from. -/
inductive SqlSource where
  | table (name : QualifiedName) (aliasName : Option String)
  | query (q : SqlQuery) (aliasName : Option String)
  | function (name : String) (args : List SqlExpr) (aliasName : Option String)
  | join (kind : JoinKind) (natural : Bool) (left right : SqlSource) (on : Option SqlExpr)
      (usingColumns : List String)
  deriving Inhabited

/-- A sort term: the expression, descending or not, and nulls first or last when said. -/
inductive OrderTerm where
  | mk (e : SqlExpr) (descending : Bool) (nullsFirst : Option Bool)
  deriving Inhabited

/-- A named subquery, with its column names if given. -/
inductive CommonTable where
  | mk (name : String) (columns : List String) (q : SqlQuery)
  deriving Inhabited

end

/-- What a statement does when a row breaks a constraint. -/
inductive ConflictRule where
  | abort
  | fail
  | ignore
  | replace
  | rollback
  deriving Repr, DecidableEq, Inhabited

/-- An assignment of an update: the columns and the value. -/
structure Assignment where
  columns : List String
  value : SqlExpr
  deriving Inhabited

/-- What an upsert does on a conflict. -/
inductive UpsertAction where
  | nothing
  | update (sets : List Assignment) (filter : Option SqlExpr)
  deriving Inhabited

/-- An upsert clause: the conflict it catches (columns and a condition), or any, and what it
does. -/
structure Upsert where
  target : Option (List String × Option SqlExpr)
  action : UpsertAction
  deriving Inhabited

/-- Where an insert's rows come from. -/
inductive InsertSource where
  | query (q : SqlQuery)
  | defaults
  deriving Inhabited

/-- A column of a table definition. -/
structure ColumnSpec where
  name : String
  declared : String := ""
  notNull : Option ConflictRule := none
  primaryKey : Option ConflictRule := none
  descending : Bool := false
  autoIncrement : Bool := false
  unique : Option ConflictRule := none
  default : Option SqlExpr := none
  collation : Option String := none
  checks : List SqlExpr := []
  generated : Option SqlExpr := none
  deriving Inhabited

/-- A table definition: columns, then constraints over several columns. -/
structure TableSpec where
  columns : List ColumnSpec
  primaryKey : Option (List String × ConflictRule) := none
  uniques : List (List String × ConflictRule) := []
  checks : List SqlExpr := []
  withoutRowid : Bool := false
  strict : Bool := false
  deriving Inhabited

/-- How a table is defined: by its columns, or as a query's result. -/
inductive TableBody where
  | spec (s : TableSpec)
  | query (q : SqlQuery)
  deriving Inhabited

/-- Kinds of schema objects. -/
inductive ObjectKind where
  | table
  | index
  | view
  | trigger
  deriving Repr, DecidableEq, Inhabited

/-- A column of an index, or an expression. -/
structure IndexedColumn where
  expr : SqlExpr
  collation : Option String := none
  deriving Inhabited

/-- When a trigger fires. -/
inductive TriggerEvent where
  | insert
  | update (columns : List String)
  | delete
  deriving Inhabited

inductive SqlStatement where
  | query (q : SqlQuery)
  | insert (rule : Option ConflictRule) (table : QualifiedName) (aliasName : Option String)
      (columns : Option (List String)) (source : InsertSource) (upserts : List Upsert)
      (returning : List ResultColumn)
  | update (rule : Option ConflictRule) (table : QualifiedName) (aliasName : Option String)
      (sets : List Assignment) (source : Option SqlSource) (filter : Option SqlExpr)
      (returning : List ResultColumn)
  | delete (table : QualifiedName) (aliasName : Option String) (filter : Option SqlExpr)
      (returning : List ResultColumn)
  | withTables (recursive : Bool) (tables : List CommonTable) (body : SqlStatement)
  | createTable (temporary ifNotExists : Bool) (name : QualifiedName) (body : TableBody)
  | createIndex (unique ifNotExists : Bool) (name : QualifiedName) (table : String)
      (columns : List IndexedColumn) (filter : Option SqlExpr)
  | createView (temporary ifNotExists : Bool) (name : QualifiedName) (columns : List String)
      (q : SqlQuery)
  | createTrigger (ifNotExists : Bool) (name : QualifiedName) (table : String)
      (event : TriggerEvent)
  | createVirtual (name : QualifiedName) (module : String)
  | drop (kind : ObjectKind) (ifExists : Bool) (name : QualifiedName)
  | renameTable (table : QualifiedName) (newName : String)
  | renameColumn (table : QualifiedName) (old new : String)
  | addColumn (table : QualifiedName) (column : ColumnSpec)
  | dropColumn (table : QualifiedName) (column : String)
  | begin
  | commit
  | rollback (savepoint : Option String)
  | savepoint (name : String)
  | release (name : String)
  | pragma (name : QualifiedName) (value : Option SqlExpr)
  | explain (s : SqlStatement)
  | maintenance
  | vacuum
  | attach (file : SqlExpr) (schema : SqlExpr)
  | detach (schema : String)
  deriving Inhabited

/-- Kinds of constraints, with the extended result code of a failure. -/
inductive ConstraintKind where
  | notNull
  | unique
  | primaryKey
  | check
  deriving Repr, DecidableEq, Inhabited

/-- Why the database refused a statement. -/
inductive SqlError where
  /-- the parser stopped at a token -/
  | unexpected (near : String)
  /-- the text ended inside a statement -/
  | incomplete
  /-- a piece of text that is no token -/
  | unrecognized (token : String)
  /-- any other error of the statement's logic -/
  | logic (message : String)
  /-- a row broke a constraint -/
  | constraint (kind : ConstraintKind) (detail : String)
  /-- a value of the wrong kind for a rowid -/
  | mismatch
  /-- a value out of range -/
  | range (message : String)
  /-- a statement had more parameters than arguments were given -/
  | binding (message : String)
  /-- a text or blob longer than the database holds -/
  | tooBig
  deriving Repr, Inhabited, DecidableEq

/-- The extended result code of a constraint failure. -/
def ConstraintKind.code : ConstraintKind → Nat
  | .notNull => 1299
  | .unique => 2067
  | .primaryKey => 1555
  | .check => 275

def ConstraintKind.words : ConstraintKind → String
  | .notNull => "NOT NULL"
  | .unique => "UNIQUE"
  | .primaryKey => "UNIQUE"
  | .check => "CHECK"

namespace SqlError

/-- The message of a refusal, without its kind and code. -/
def message : SqlError → String
  | .unexpected near => "near \"" ++ near ++ "\": syntax error"
  | .incomplete => "incomplete input"
  | .unrecognized t => "unrecognized token: \"" ++ t ++ "\""
  | .logic m => m
  | .constraint k d => k.words ++ " constraint failed: " ++ d
  | .mismatch => "datatype mismatch"
  | .range m => m
  | .binding m => m
  | .tooBig => "string or blob too big"

/-- The report of a refusal: the kind of failure, the message when it says more, and the
result code. -/
def text : SqlError → String
  | .constraint k d =>
    "constraint failed: " ++ k.words ++ " constraint failed: " ++ d ++ " (" ++ toString k.code ++ ")"
  | .mismatch => "datatype mismatch (20)"
  | .range m => "column index out of range: " ++ m ++ " (25)"
  | .binding m => m
  | .tooBig => "string or blob too big (18)"
  | e => "SQL logic error: " ++ e.message ++ " (1)"

end SqlError

end TradeLedger
