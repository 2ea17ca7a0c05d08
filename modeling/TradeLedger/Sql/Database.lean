import TradeLedger.Sql.Check
import TradeLedger.Sql.Parse
/-!
# Running statements on a database

A database is its catalog and, in a transaction, the catalog a rollback returns to, with its
savepoints. A statement runs whole or not at all unless its conflict rule says otherwise
(`IGNORE`, `REPLACE`, `FAIL`, `ROLLBACK`), the statement's rule winning over the constraint's; an
upsert turns a clash into nothing or an update. Statements of a text run in turn, the first
refusal ending the text, each with the same arguments; a named parameter is refused.

## Main definitions

* `SqlDatabase`: the catalog and transaction state.
* `SqlDatabase.exec`: running a text of statements with its arguments.
-/

namespace TradeLedger

/-- A database: the catalog, the catalog an open transaction returns to on rollback, the
savepoints (innermost first), whether the first savepoint opened the transaction, the change
counters, and the clock. -/
structure SqlDatabase where
  catalog : Catalog := {}
  began : Option Catalog := none
  savepoints : List (String × Catalog) := []
  openedBySavepoint : Bool := false
  changes : Nat := 0
  totalChanges : Nat := 0
  lastRowid : Int := 0
  now : Int := 0
  deriving Inhabited

namespace SqlRun

/-- What a writing statement has done so far: the catalog as changed, the rows changed, and
the last rowid inserted, if any. -/
structure Progress where
  catalog : Catalog
  changes : Nat := 0
  lastRowid : Option Int := none
  deriving Inhabited

/-- A step of a writing statement: it may be refused with the rule the refusal falls under,
keeping what it changed so far. -/
abbrev Write := ExceptT (SqlError × ConflictRule) (StateM Progress)

/-- Refuse the statement under a rule. -/
def refuse {α : Type} (e : SqlError) (rule : ConflictRule) : Write α := throw (e, rule)

/-- A refusal of evaluation, which falls under `ABORT`. -/
def lift {α : Type} : Except SqlError α → Write α
  | .ok a => pure a
  | .error e => throw (e, .abort)

/-- The fuel expressions are evaluated with. -/
def fuel : Nat := 10000

/-- The scope of a writing statement: the catalog as changed so far. -/
def scope (env : SqlEnv) : Write SqlEnv := do
  pure { env with catalog := (← get).catalog }

/-- The table a statement writes: a view or the schema table may not be written. -/
def target (c : Catalog) (qn : QualifiedName) : Except SqlError SqlTable := do
  SqlEval.checkSchema qn
  match c.table? qn.name with
  | some t => pure t
  | none =>
    if (c.view? qn.name).isSome then throw (.logic ("cannot modify " ++ qn.name ++ " because it is a view"))
    else if SqlEval.isSchemaTable qn.name then
      throw (.logic ("table " ++ qn.name ++ " may not be modified"))
    else throw (.logic ("no such table: " ++ SqlEval.qualifiedText qn))

/-- Put the table back into the catalog. -/
def putTable (t : SqlTable) : Write Unit :=
  modify fun p => { p with catalog := p.catalog.putTable t }

/-- The current state of a table. -/
def current (name : String) : Write SqlTable := do
  match (← get).catalog.table? name with
  | some t => pure t
  | none => refuse (.logic ("no such table: " ++ name)) .abort

/-- A value as a rowid: an integer, or a real or text that is exactly one. -/
def rowidOf (v : SqlValue) : Option Int :=
  match v with
  | .integer i => some i
  | .real x => match SqlValue.integerAffinity x with
    | .integer i => some i
    | _ => none
  | .text s => match SqlValue.numericAffinity s with
    | .integer i => some i
    | _ => none
  | _ => none

/-- The value of a column's default. -/
def defaultOf (env : SqlEnv) (c : SqlColumn) : Write SqlValue :=
  match c.default with
  | some e => lift (SqlEval.expr fuel { env with frames := [] } e)
  | none => pure .null

/-- The values a table stores for a row: each column's affinity applied. -/
def stored (t : SqlTable) (vals : Array SqlValue) : Array SqlValue :=
  vals.mapIdx fun i v =>
    if t.rowidColumn == some i then v
    else match t.columns[i]? with
      | some c => SqlValue.withAffinity c.affinity v
      | none => v

/-- The binding of a table's row under a name. -/
def rowBinding (t : SqlTable) (name : String) (rowid : Int) (vals : Array SqlValue) : Binding :=
  Binding.ofRow t name ⟨rowid, vals⟩

def keyNames (t : SqlTable) (k : TableKey) : List String :=
  k.columns.filterMap fun i => t.columns[i]?.map (·.name)

/-- Whether an upsert's target names exactly the columns of a key. -/
def targets (_t : SqlTable) (names : List String) (u : Upsert) : Bool :=
  match u.target with
  | none => true
  | some (cols, _) =>
    cols.length == names.length && cols.all (fun c => names.any (sameName · c))

/-- The assignments of an update as column positions (none for the rowid) and values. -/
def assignmentTargets (t : SqlTable) (sets : List Assignment) :
    Except SqlError (List (List (Option Nat) × SqlExpr)) :=
  sets.mapM fun a => do
    let cols ← a.columns.mapM fun c =>
      match t.columnIndex? c with
      | some i => pure (some i)
      | none =>
        if Binding.isRowidName c && !t.withoutRowid then pure none
        else throw (.logic ("no such column: " ++ c))
    pure (cols, a.value)

/-- The new values of a row under assignments evaluated in the row's scope, and its new rowid
if an assignment sets it. -/
def assigned (env : SqlEnv) (t : SqlTable) (sets : List (List (Option Nat) × SqlExpr))
    (vals : Array SqlValue) : Write (Array SqlValue × Option SqlValue) := do
  let mut out := vals
  let mut newRowid : Option SqlValue := none
  for (cols, e) in sets do
    let vs ← match cols, e with
      | [_], _ => do pure [← lift (SqlEval.expr fuel env e)]
      | _, .vector items => do
        if items.length != cols.length then
          refuse (.logic (toString cols.length ++ " columns assigned " ++ toString items.length ++
            " values")) .abort
        lift (SqlEval.exprs fuel env items)
      | _, .subquery q => do
        let rel ← lift (SqlEval.query fuel env q)
        if rel.columns.size != cols.length then
          refuse (.logic (toString cols.length ++ " columns assigned " ++ toString rel.columns.size ++
            " values")) .abort
        pure (match rel.rows with
          | r :: _ => r.toList
          | [] => cols.map fun _ => .null)
      | _, _ => refuse (.logic ("row value misused")) .abort
    for (c, v) in cols.zip vs do
      match c with
      | some i =>
        out := out.set! i v
        if t.rowidColumn == some i then newRowid := some v
      | none => newRowid := some v
  pure (out, newRowid)

mutual

/-- Put a row into a table, checking not-null columns, checks, rowid and keys (`self`: the
rowid of the row updated). A clash goes to the first upsert on its key, else under the
statement's or the constraint's rule. The result says whether the row was written. -/
def placeRow : Nat → SqlEnv → SqlTable → String → Option ConflictRule → List Upsert →
    Array SqlValue → Int → Option Int → Write Bool
  | 0, _, _, _, _, _, _, _, _ => refuse (.logic "too many nested writes") .abort
  | depth + 1, env, t, bname, rule, upserts, vals, rowid, self => do
    let mut vals := vals
    let mut t := t
    -- nulls
    for (c, i) in t.columns.zipIdx do
      if vals[i]?.getD .null == .null && t.rowidColumn != some i then
        match c.notNull with
        | none => pure ()
        | some colRule =>
          match rule.getD colRule with
          | .ignore => return false
          | .replace =>
            let d ← defaultOf env c
            if d == .null then
              refuse (.constraint .notNull (t.name ++ "." ++ c.name)) .abort
            vals := vals.set! i (SqlValue.withAffinity c.affinity d)
          | r => refuse (.constraint .notNull (t.name ++ "." ++ c.name)) r
    -- checks
    for chk in t.checks do
      let v ← lift (SqlEval.expr fuel { env with frames := [[rowBinding t bname rowid vals]] } chk)
      if v.truth == some false then
        match rule.getD .abort with
        | .ignore => return false
        | .replace => refuse (.constraint .check t.name) .abort
        | r => refuse (.constraint .check t.name) r
    -- the rowid
    if !t.withoutRowid && self != some rowid then
      match t.rowWithId? rowid with
      | some other =>
        let names := match t.rowidColumn with
          | some i => (t.columns[i]?.map (·.name)).toList
          | none => ["rowid"]
        match upserts.find? (targets t names) with
        | some u => return (← upsert depth env t bname u other vals rowid)
        | none =>
          match rule.getD t.rowidRule with
          | .ignore => return false
          | .replace =>
            t := t.deleteRow other.rowid
          | r =>
            refuse (.constraint .primaryKey (t.name ++ "." ++ (names.headD "rowid"))) r
      | none => pure ()
    -- the keys
    for k in t.keys do
      match t.rows.find? fun r => self != some r.rowid && t.shareKey k vals r.values with
      | some other =>
        match upserts.find? (targets t (keyNames t k)) with
        | some u => return (← upsert depth env t bname u other vals rowid)
        | none =>
          match rule.getD k.rule with
          | .ignore => return false
          | .replace =>
            -- every row sharing the key goes
            t := { t with rows := t.rows.filter fun r => self == some r.rowid || !t.shareKey k vals r.values }
          | r =>
            refuse (.constraint (if k.primary then .primaryKey else .unique) (t.keyDetail k)) r
      | none => pure ()
    let kept := match self with
      | some old => t.deleteRow old
      | none => t
    putTable (kept.insertRow ⟨rowid, vals⟩)
    modify fun p => { p with changes := p.changes + 1 }
    pure true

/-- An upsert's answer to a clash with row `other`: nothing, or an update of that row with the
proposed row known as `excluded`. -/
def upsert : Nat → SqlEnv → SqlTable → String → Upsert → SqlRow → Array SqlValue → Int →
    Write Bool
  | 0, _, _, _, _, _, _, _ => refuse (.logic "too many nested writes") .abort
  | depth + 1, env, t, bname, u, other, proposed, rowid => do
    match u.action with
    | .nothing => pure false
    | .update sets cond =>
      let excluded := { rowBinding t "excluded" rowid proposed with qualifiedOnly := true }
      let renv := { env with frames := [[rowBinding t bname other.rowid other.values, excluded]] }
      let holds ← match cond with
        | some c => do pure ((← lift (SqlEval.expr fuel renv c)).truth == some true)
        | none => pure true
      if !holds then return false
      let targets ← lift (assignmentTargets t sets)
      let (vals, newRowid) ← assigned renv t targets other.values
      let vals := stored t vals
      let rowid ← match newRowid with
        | some v => match rowidOf v with
          | some i => pure i
          | none => refuse .mismatch .abort
        | none => pure other.rowid
      let vals := match t.rowidColumn with
        | some i => vals.set! i (.integer rowid)
        | none => vals
      placeRow depth renv t bname (some .abort) [] vals rowid (some other.rowid)

end

/-- The positions a statement's column list names (none for the rowid), or every column. -/
def columnPositions (t : SqlTable) (columns : Option (List String)) :
    Except SqlError (List (Option Nat)) :=
  match columns with
  | some cols => cols.mapM fun c =>
    match t.columnIndex? c with
    | some i => .ok (some i)
    | none =>
      if Binding.isRowidName c && !t.withoutRowid then .ok none
      else .error (.logic ("table " ++ t.name ++ " has no column named " ++ c))
  | none => .ok ((List.range t.columns.size).map some)

/-- The width check of an insert: the values given must match the columns named, or every
column when none are named. -/
def widthCheck (t : SqlTable) (named : Bool) (positions : Nat) (width : Nat) :
    Except SqlError Unit :=
  if named then
    if width != positions then
      .error (.logic (toString width ++ " values for " ++ toString positions ++ " columns"))
    else .ok ()
  else if width != t.columns.size then
    .error (.logic ("table " ++ t.name ++ " has " ++ toString t.columns.size ++
      " columns but " ++ toString width ++ " values were supplied"))
  else .ok ()

def insert (env : SqlEnv) (rule : Option ConflictRule) (qn : QualifiedName)
    (aliasName : Option String) (columns : Option (List String)) (src : InsertSource)
    (upserts : List Upsert) : Write Unit := do
  let t ← lift (target (← get).catalog qn)
  let positions ← lift (columnPositions t columns)
  let rows ← match src with
    | .defaults => pure [#[]]
    | .query q => do
      let rel ← lift (SqlEval.query fuel env q)
      lift (widthCheck t columns.isSome positions.length rel.columns.size)
      pure rel.rows
  let bname := aliasName.getD t.name
  for r in rows do
    let t ← current t.name
    let env ← scope env
    let mut given : Array SqlValue := #[]
    for (c, i) in t.columns.zipIdx do
      let k := positions.idxOf (some i)
      if k < positions.length then given := given.push (r[k]?.getD .null)
      else given := given.push (← defaultOf env c)
    let explicit : Option SqlValue :=
      match t.rowidColumn with
      | some i => given[i]?
      | none =>
        let k := positions.idxOf none
        if k < positions.length then r[k]? else none
    let rowid ← match explicit with
      | none => pure t.nextRowid
      | some .null => pure t.nextRowid
      | some v => match rowidOf v with
        | some i => pure i
        | none => refuse .mismatch .abort
    let vals := stored t given
    let vals := match t.rowidColumn with
      | some i => vals.set! i (.integer rowid)
      | none => vals
    if ← placeRow 8 env t bname rule upserts vals rowid none then
      modify fun p => { p with lastRowid := some rowid }

/-- Update the rows a condition holds for. -/
def update (env : SqlEnv) (rule : Option ConflictRule) (qn : QualifiedName)
    (aliasName : Option String) (sets : List Assignment) (src : Option SqlSource)
    (filter : Option SqlExpr) : Write Unit := do
  let t ← lift (target (← get).catalog qn)
  let bname := aliasName.getD t.name
  let targets ← lift (assignmentTargets t sets)
  let extra ← match src with
    | some s => do pure (some (← lift (SqlEval.source fuel env s)).2)
    | none => pure none
  -- the rows are chosen before any is changed
  let mut chosen : List (Int × Frame) := []
  for r in t.rows do
    let own := rowBinding t bname r.rowid r.values
    let candidates := match extra with
      | some frames => frames.map (own :: ·)
      | none => [[own]]
    let mut pick : Option Frame := none
    for f in candidates do
      let holds ← match filter with
        | some c => do pure ((← lift (SqlEval.expr fuel { env with frames := [f] } c)).truth == some true)
        | none => pure true
      if holds then
        pick := some f
        break
    match pick with
    | some f => chosen := chosen ++ [(r.rowid, f)]
    | none => pure ()
  for (id, f) in chosen do
    let t ← current t.name
    match t.rowWithId? id with
    | none => pure ()
    | some cur =>
      let env ← scope env
      let frame := (rowBinding t bname cur.rowid cur.values) :: f.drop 1
      let renv := { env with frames := [frame] }
      let (vals, newRowid) ← assigned renv t targets cur.values
      let vals := stored t vals
      let rowid ← match newRowid with
        | some v => match rowidOf v with
          | some i => pure i
          | none => refuse .mismatch .abort
        | none => pure cur.rowid
      let vals := match t.rowidColumn with
        | some i => vals.set! i (.integer rowid)
        | none => vals
      discard (placeRow 8 renv t bname rule [] vals rowid (some cur.rowid))

/-- Delete the rows a condition holds for. -/
def delete (env : SqlEnv) (qn : QualifiedName) (aliasName : Option String)
    (filter : Option SqlExpr) : Write Unit := do
  let t ← lift (target (← get).catalog qn)
  let bname := aliasName.getD t.name
  let mut gone : List Int := []
  for r in t.rows do
    let holds ← match filter with
      | some c => do
        pure ((← lift (SqlEval.expr fuel { env with frames := [[rowBinding t bname r.rowid r.values]] } c)).truth == some true)
      | none => pure true
    if holds then gone := r.rowid :: gone
  putTable { t with rows := t.rows.filter fun r => !gone.contains r.rowid }
  modify fun p => { p with changes := p.changes + gone.length }

/-- Check a statement before it runs: its tables, columns and functions must exist. -/
def check (env : SqlEnv) : SqlStatement → Except SqlError Unit
  | .query q => discard (SqlCheck.query fuel env q)
  | .insert _ qn aliasName cols src ups ret => do
    let t ← target env.catalog qn
    let positions ← columnPositions t cols
    match src with
    | .query q =>
      let width ← SqlCheck.query fuel env q
      widthCheck t cols.isSome positions.length width.size
    | .defaults => pure ()
    let bname := aliasName.getD t.name
    let own := Binding.shapeOf t bname
    let excluded := { Binding.shapeOf t "excluded" with qualifiedOnly := true }
    let uenv := { env with frames := [[own, excluded]] }
    for u in ups do
      match u.target with
      | some (tcols, cond) =>
        for c in tcols do
          if (t.columnIndex? c).isNone then throw (.logic ("no such column: " ++ c))
        let keyed := t.keys.any (fun k => targets t (keyNames t k) u) ||
          (t.rowidColumn.any fun i => targets t ((t.columns[i]?.map (·.name)).toList) u)
        if !keyed then
          throw (.logic "ON CONFLICT clause does not match any PRIMARY KEY or UNIQUE constraint")
        match cond with
        | some c => SqlCheck.expr fuel { env with frames := [[own]] } false c
        | none => pure ()
      | none => pure ()
      match u.action with
      | .update sets cond =>
        discard (assignmentTargets t sets)
        for a in sets do
          SqlCheck.expr fuel uenv false a.value
        match cond with
        | some c => SqlCheck.expr fuel uenv false c
        | none => pure ()
      | .nothing => pure ()
    checkReturning t bname ret
  | .update _ qn aliasName sets src filter ret => do
    let t ← target env.catalog qn
    let bname := aliasName.getD t.name
    discard (assignmentTargets t sets)
    let extra ← match src with
      | some s => SqlCheck.source fuel env s
      | none => pure []
    let uenv := { env with frames := [Binding.shapeOf t bname :: extra] }
    for a in sets do
      SqlCheck.expr fuel uenv false a.value
    match filter with
    | some c => SqlCheck.expr fuel uenv false c
    | none => pure ()
    checkReturning t bname ret
  | .delete qn aliasName filter ret => do
    let t ← target env.catalog qn
    let bname := aliasName.getD t.name
    match filter with
    | some c => SqlCheck.expr fuel { env with frames := [[Binding.shapeOf t bname]] } false c
    | none => pure ()
    checkReturning t bname ret
  | .withTables recursive tables body => do
    let env ← SqlCheck.named fuel env recursive tables
    check env body
  | .createTable _ _ _ (.query q) => discard (SqlCheck.query fuel env q)
  | .createView _ _ _ _ q => discard (SqlCheck.query fuel env q)
  | .explain s => check env s
  | _ => pure ()
where
  /-- Check a `RETURNING` clause against the table's row. -/
  checkReturning (t : SqlTable) (bname : String) (ret : List ResultColumn) : Except SqlError Unit := do
    let renv := { env with frames := [[Binding.shapeOf t bname]] }
    for c in ret do
      match c with
      | .expr e _ => SqlCheck.expr fuel renv false e
      | _ => pure ()

end SqlRun

namespace SqlDatabase

open SqlRun

/-- The scope statements are evaluated in. -/
def env (db : SqlDatabase) (params : Array SqlValue) : SqlEnv :=
  { catalog := db.catalog, params, now := db.now, changes := db.changes,
    totalChanges := db.totalChanges, lastRowid := db.lastRowid }

/-- Whether a transaction is open. -/
def inTransaction (db : SqlDatabase) : Bool := db.began.isSome

/-- Run a writing statement whole: on a refusal, undo it, keep it (`FAIL`), or undo the
transaction (`ROLLBACK`). -/
def write (db : SqlDatabase) (w : Write Unit) : SqlDatabase × Option SqlError :=
  let (r, p) := (w.run).run { catalog := db.catalog }
  let counted := { db with
    changes := p.changes, totalChanges := db.totalChanges + p.changes,
    lastRowid := p.lastRowid.getD db.lastRowid }
  match r with
  | .ok () => ({ counted with catalog := p.catalog }, none)
  | .error (e, .fail) => ({ counted with catalog := p.catalog }, some e)
  | .error (e, .rollback) =>
    match db.began with
    | some b => ({ db with catalog := b, began := none, savepoints := [] }, some e)
    | none => (db, some e)
  | .error (e, _) => (db, some e)

/-- The affinity name a column made from a query's result is declared with. -/
def declaredFor : Option Affinity → String
  | some .text => "TEXT"
  | some .numeric => "NUM"
  | some .integer => "INT"
  | some .real => "REAL"
  | _ => ""

/-- A conflict rule of a constraint, `ABORT` when none is said. -/
def ruleOf (r : Option ConflictRule) : ConflictRule := r.getD .abort

/-- Whether an expression reads a column, which a default may not. -/
def readsColumn : SqlExpr → Bool
  | .column _ n _ => !(sameName n "TRUE" || sameName n "FALSE")
  | .unary _ e => readsColumn e
  | .binary _ a b => readsColumn a || readsColumn b
  | .cast e _ => readsColumn e
  | .collate e _ => readsColumn e
  | .call _ _ args _ => args.attach.any fun ⟨a, _⟩ => readsColumn a
  | .subquery _ => true
  | _ => false
termination_by e => sizeOf e
decreasing_by
  all_goals simp_wf
  all_goals first
    | omega
    | (have h := List.sizeOf_lt_of_mem ‹_ ∈ _›; simp_all; omega)

/-- The table a definition makes. -/
def tableOf (name : String) (spec : TableSpec) : Except SqlError SqlTable := do
  let names := spec.columns.map (·.name)
  for (n, i) in names.zipIdx do
    if (names.take i).any (sameName · n) then throw (.logic ("duplicate column name: " ++ n))
  let columnKeys := spec.columns.filter (·.primaryKey.isSome)
  if columnKeys.length + (if spec.primaryKey.isSome then 1 else 0) > 1 then
    throw (.logic ("table \"" ++ name ++ "\" has more than one primary key"))
  let position := fun (n : String) =>
    match names.findIdx? (sameName · n) with
    | some i => Except.ok i
    | none => Except.error (SqlError.logic ("no such column: " ++ n))
  let mut columns : Array SqlColumn := #[]
  for c in spec.columns do
    let coll ← match c.collation with
      | some n => SqlEval.collationNamed n
      | none => pure .binary
    if (c.default.map readsColumn).getD false then
      throw (.logic ("default value of column [" ++ c.name ++ "] is not constant"))
    columns := columns.push {
      name := c.name, declared := c.declared,
      affinity := Affinity.ofDeclared c.declared, notNull := c.notNull, default := c.default,
      collation := coll, generated := c.generated }
  -- the primary key: a rowid alias when it is one column declared INTEGER
  let pk : Option (List Nat × ConflictRule × Bool × Bool) ← match spec.primaryKey with
    | some (cols, rule) => do pure (some (← cols.mapM position, rule, false, false))
    | none =>
      match spec.columns.zipIdx.find? (·.1.primaryKey.isSome) with
      | some (c, i) => pure (some ([i], ruleOf c.primaryKey, c.descending, c.autoIncrement))
      | none => pure none
  let aliasName := match pk with
    | some ([i], _, descending, _) =>
      if (columns[i]?.map (fun c => SqlFunc.upper c.declared == "INTEGER")).getD false &&
        !descending && !spec.withoutRowid then some i else none
    | _ => none
  let auto := match pk with
    | some (_, _, _, a) => a
    | none => false
  if auto && aliasName.isNone then
    throw (.logic "AUTOINCREMENT is only allowed on an INTEGER PRIMARY KEY")
  if spec.withoutRowid && pk.isNone then
    throw (.logic ("PRIMARY KEY missing on table " ++ name))
  let mut keys : List TableKey := []
  match pk, aliasName with
  | some (cols, rule, _, _), none => keys := keys ++ [{ columns := cols, rule, primary := true }]
  | _, _ => pure ()
  for (c, i) in spec.columns.zipIdx do
    match c.unique with
    | some rule => keys := keys ++ [{ columns := [i], rule, primary := false }]
    | none => pure ()
  for (cols, rule) in spec.uniques do
    keys := keys ++ [{ columns := ← cols.mapM position, rule, primary := false }]
  let checks := spec.columns.flatMap (·.checks) ++ spec.checks
  let rowidRule := match pk with
    | some (_, rule, _, _) => rule
    | none => .abort
  let table : SqlTable := {
    name, columns, keys, rowidColumn := aliasName, rowidRule,
    autoIncrement := auto, checks, withoutRowid := spec.withoutRowid, strict := spec.strict }
  -- the checks may read only the table's own columns
  let shape : SqlEnv := { catalog := {}, frames := [[Binding.shapeOf table name]] }
  for chk in checks do
    SqlCheck.expr fuel shape false chk
  pure table

/-- Whether a name is kept for the database's own objects. -/
def reservedName (n : String) : Bool := (SqlFunc.upper n).startsWith "SQLITE_"

/-- The refusal of a name already taken by an object of the catalog, if it is. -/
def nameTaken (c : Catalog) (n : String) : Option SqlError :=
  if (c.table? n).isSome then some (.logic ("table " ++ n ++ " already exists"))
  else if (c.view? n).isSome then some (.logic ("view " ++ n ++ " already exists"))
  else if (c.index? n).isSome then some (.logic ("there is already an index named " ++ n))
  else none

def createTable (db : SqlDatabase) (ine : Bool) (qn : QualifiedName) (body : TableBody) :
    Except SqlError SqlDatabase := do
  SqlEval.checkSchema qn
  let c := db.catalog
  if reservedName qn.name then throw (.logic ("object name reserved for internal use: " ++ qn.name))
  match nameTaken c qn.name with
  | some e =>
    if ine && (c.index? qn.name).isNone then return db else throw e
  | none => pure ()
  match body with
  | .spec spec =>
    let t ← tableOf qn.name spec
    pure { db with catalog := { c with tables := c.tables ++ [t] } }
  | .query q =>
    let rel ← SqlEval.query fuel (db.env #[]) q
    let columns := rel.columns.map fun ci =>
      ({ name := ci.name, declared := declaredFor ci.affinity,
         affinity := Affinity.ofDeclared (declaredFor ci.affinity) } : SqlColumn)
    let t0 : SqlTable := { name := qn.name, columns }
    let rows := rel.rows.zipIdx.map fun (r, i) => ({ rowid := i + 1, values := stored t0 r } : SqlRow)
    let t := { t0 with rows := rows.toArray, highest := rows.length }
    pure { db with catalog := { c with tables := c.tables ++ [t] } }

/-- Create an index; a unique one adds a key to its table, and is refused when the rows
already clash. -/
def createIndex (db : SqlDatabase) (unique ine : Bool) (qn : QualifiedName) (table : String)
    (cols : List IndexedColumn) (filter : Option SqlExpr) : Except SqlError SqlDatabase := do
  SqlEval.checkSchema qn
  let c := db.catalog
  if reservedName qn.name then throw (.logic ("object name reserved for internal use: " ++ qn.name))
  if (c.index? qn.name).isSome then
    if ine then return db else throw (.logic ("index " ++ qn.name ++ " already exists"))
  if (c.table? qn.name).isSome || (c.view? qn.name).isSome then
    throw (.logic ("there is already a table named " ++ qn.name))
  let t ← match c.table? table with
    | some t => pure t
    | none =>
      if (c.view? table).isSome then throw (.logic "views may not be indexed")
      else throw (.logic ("no such table: main." ++ table))
  let shape : SqlEnv := { db.env #[] with frames := [[Binding.shapeOf t t.name]] }
  for ic in cols do
    SqlCheck.expr fuel shape false ic.expr
  match filter with
  | some f => SqlCheck.expr fuel shape false f
  | none => pure ()
  let positions := cols.filterMap fun ic =>
    match ic.expr with
    | .column none n _ => t.columnIndex? n
    | _ => none
  let t ← if unique && positions.length == cols.length && filter.isNone then do
      let key : TableKey := { columns := positions, rule := .abort, primary := false, index := some qn.name }
      for (r, i) in t.rows.toList.zipIdx do
        if (t.rows.toList.take i).any (fun o => t.shareKey key r.values o.values) then
          throw (.constraint .unique (t.keyDetail key))
      pure { t with keys := t.keys ++ [key] }
    else pure t
  let c := c.putTable t
  let index : SqlIndex := { name := qn.name, table := t.name, columns := cols, unique, filter }
  pure { db with catalog := { c with indexes := c.indexes ++ [index] } }

def drop (db : SqlDatabase) (kind : ObjectKind) (ie : Bool) (qn : QualifiedName) :
    Except SqlError SqlDatabase := do
  SqlEval.checkSchema qn
  let c := db.catalog
  let n := qn.name
  match kind with
  | .table =>
    match c.table? n with
    | some t =>
      if SqlEval.isSchemaTable n then throw (.logic ("table " ++ n ++ " may not be dropped"))
      pure { db with catalog := { c with
        tables := c.tables.filter (!sameName ·.name t.name),
        indexes := c.indexes.filter (!sameName ·.table t.name),
        triggers := c.triggers.filter (!sameName ·.table t.name) } }
    | none =>
      if (c.view? n).isSome then throw (.logic ("use DROP VIEW to delete view " ++ n))
      if ie then pure db else throw (.logic ("no such table: " ++ SqlEval.qualifiedText qn))
  | .view =>
    match c.view? n with
    | some _ => pure { db with catalog := { c with views := c.views.filter (!sameName ·.name n) } }
    | none =>
      if (c.table? n).isSome then throw (.logic ("use DROP TABLE to delete table " ++ n))
      if ie then pure db else throw (.logic ("no such view: " ++ SqlEval.qualifiedText qn))
  | .index =>
    match c.index? n with
    | some x =>
      let c := match c.table? x.table with
        | some t => c.putTable { t with keys := t.keys.filter fun k => !(k.index.any (sameName · n)) }
        | none => c
      pure { db with catalog := { c with indexes := c.indexes.filter (!sameName ·.name n) } }
    | none => if ie then pure db else throw (.logic ("no such index: " ++ SqlEval.qualifiedText qn))
  | .trigger =>
    match c.trigger? n with
    | some _ => pure { db with catalog := { c with triggers := c.triggers.filter (!sameName ·.name n) } }
    | none => if ie then pure db else throw (.logic ("no such trigger: " ++ SqlEval.qualifiedText qn))

def renameTable (db : SqlDatabase) (qn : QualifiedName) (newName : String) :
    Except SqlError SqlDatabase := do
  let c := db.catalog
  let t ← match c.table? qn.name with
    | some t => pure t
    | none => throw (.logic ("no such table: " ++ qn.name))
  if (c.table? newName).isSome || (c.index? newName).isSome || (c.view? newName).isSome then
    throw (.logic ("there is already another table or index with this name: " ++ newName))
  if reservedName newName then throw (.logic ("object name reserved for internal use: " ++ newName))
  pure { db with catalog := { c with
    tables := c.tables.map fun o => if sameName o.name t.name then { o with name := newName } else o,
    indexes := c.indexes.map fun x => if sameName x.table t.name then { x with table := newName } else x,
    triggers := c.triggers.map fun x => if sameName x.table t.name then { x with table := newName } else x } }

def renameColumn (db : SqlDatabase) (qn : QualifiedName) (old new : String) :
    Except SqlError SqlDatabase := do
  let c := db.catalog
  let t ← match c.table? qn.name with
    | some t => pure t
    | none => throw (.logic ("no such table: " ++ qn.name))
  let i ← match t.columnIndex? old with
    | some i => pure i
    | none => throw (.logic ("no such column: \"" ++ old ++ "\""))
  if (t.columnIndex? new).isSome then throw (.logic ("duplicate column name: " ++ new))
  let columns := t.columns.modify i fun col => { col with name := new }
  pure { db with catalog := c.putTable { t with columns } }

/-- Add a column; the rows take its default. -/
def addColumn (db : SqlDatabase) (qn : QualifiedName) (spec : ColumnSpec) :
    Except SqlError SqlDatabase := do
  let c := db.catalog
  let t ← match c.table? qn.name with
    | some t => pure t
    | none => throw (.logic ("no such table: " ++ qn.name))
  if (t.columnIndex? spec.name).isSome then throw (.logic ("duplicate column name: " ++ spec.name))
  if spec.primaryKey.isSome then throw (.logic "Cannot add a PRIMARY KEY column")
  if spec.unique.isSome then throw (.logic "Cannot add a UNIQUE column")
  let coll ← match spec.collation with
    | some n => SqlEval.collationNamed n
    | none => pure .binary
  let col : SqlColumn := {
    name := spec.name, declared := spec.declared,
    affinity := Affinity.ofDeclared spec.declared, notNull := spec.notNull,
    default := spec.default, collation := coll }
  let d ← match spec.default with
    | some (.clock _) => throw (.logic "Cannot add a column with non-constant default")
    | some e =>
      if readsColumn e then throw (.logic ("default value of column [" ++ spec.name ++ "] is not constant"))
      SqlEval.expr fuel (db.env #[]) e
    | none => pure .null
  if spec.notNull.isSome && d == .null then
    throw (.logic "Cannot add a NOT NULL column with default value NULL")
  let d := SqlValue.withAffinity col.affinity d
  let t := { t with
    columns := t.columns.push col, checks := t.checks ++ spec.checks,
    rows := t.rows.map fun r => { r with values := r.values.push d } }
  pure { db with catalog := c.putTable t }

def dropColumn (db : SqlDatabase) (qn : QualifiedName) (n : String) :
    Except SqlError SqlDatabase := do
  let c := db.catalog
  let t ← match c.table? qn.name with
    | some t => pure t
    | none => throw (.logic ("no such table: " ++ qn.name))
  let i ← match t.columnIndex? n with
    | some i => pure i
    | none => throw (.logic ("no such column: \"" ++ n ++ "\""))
  if t.rowidColumn == some i || t.keys.any (fun k => k.primary && k.columns.contains i) then
    throw (.logic ("cannot drop PRIMARY KEY column: \"" ++ n ++ "\""))
  if t.keys.any (fun k => k.columns.contains i) then
    throw (.logic ("cannot drop UNIQUE column: \"" ++ n ++ "\""))
  if t.columns.size == 1 then
    throw (.logic ("cannot drop column \"" ++ n ++ "\": no other columns exist"))
  for x in c.indexes do
    if sameName x.table t.name && x.columns.any (fun ic => match ic.expr with
        | .column _ m _ => sameName m n
        | _ => false) then
      throw (.logic ("error in index " ++ x.name ++ " after drop column: no such column: " ++ n))
  let shift := fun (j : Nat) => if j > i then j - 1 else j
  let t := { t with
    columns := (t.columns.toList.eraseIdx i).toArray,
    rows := t.rows.map fun r => { r with values := (r.values.toList.eraseIdx i).toArray },
    keys := t.keys.map fun k => { k with columns := k.columns.map shift },
    rowidColumn := t.rowidColumn.map shift }
  pure { db with catalog := c.putTable t }

/-- Run a change of the catalog: on a refusal nothing changes. -/
def define (db : SqlDatabase) (r : Except SqlError SqlDatabase) : SqlDatabase × Option SqlError :=
  match r with
  | .ok db' => (db', none)
  | .error e => (db, some e)

/-- Run one checked statement with its parameters' values. -/
def execute (db : SqlDatabase) (params : Array SqlValue) : SqlStatement → SqlDatabase × Option SqlError
  | .query q =>
    match SqlEval.query fuel (db.env params) q with
    | .ok _ => (db, none)
    | .error e => (db, some e)
  | .insert rule qn aliasName cols src ups _ =>
    db.write (insert (db.env params) rule qn aliasName cols src ups)
  | .update rule qn aliasName sets src filter _ =>
    db.write (update (db.env params) rule qn aliasName sets src filter)
  | .delete qn aliasName filter _ => db.write (delete (db.env params) qn aliasName filter)
  | .withTables recursive tables body =>
    match SqlEval.withNamed fuel (db.env params) recursive tables with
    | .error e => (db, some e)
    | .ok env =>
      match body with
      | .insert rule qn aliasName cols src ups _ => db.write (insert env rule qn aliasName cols src ups)
      | .update rule qn aliasName sets src filter _ => db.write (update env rule qn aliasName sets src filter)
      | .delete qn aliasName filter _ => db.write (delete env qn aliasName filter)
      | .query q =>
        match SqlEval.query fuel env q with
        | .ok _ => (db, none)
        | .error e => (db, some e)
      | _ => (db, none)
  | .createTable _ ine qn body => db.define (db.createTable ine qn body)
  | .createIndex unique ine qn table cols filter =>
    db.define (db.createIndex unique ine qn table cols filter)
  | .createView _ ine qn cols q =>
    db.define (do
      SqlEval.checkSchema qn
      let c := db.catalog
      if reservedName qn.name then
        throw (.logic ("object name reserved for internal use: " ++ qn.name))
      match nameTaken c qn.name with
      | some e => if ine && (c.index? qn.name).isNone then return db else throw e
      | none => pure ()
      let width ← SqlCheck.query fuel (db.env #[]) q
      if !cols.isEmpty && cols.length != width.size then
        throw (.logic ("expected " ++ toString width.size ++ " columns for '" ++ qn.name ++
          "' but got " ++ toString cols.length))
      pure { db with catalog := { c with views := c.views ++ [{ name := qn.name, columns := cols, query := q }] } })
  | .createTrigger ine qn table _ =>
    db.define (do
      let c := db.catalog
      if (c.trigger? qn.name).isSome then
        if ine then return db else throw (.logic ("trigger " ++ qn.name ++ " already exists"))
      if (c.table? table).isNone && (c.view? table).isNone then
        throw (.logic ("no such table: main." ++ table))
      pure { db with catalog := { c with triggers := c.triggers ++ [{ name := qn.name, table }] } })
  | .createVirtual _ m => (db, some (.logic ("no such module: " ++ m)))
  | .drop kind ie qn => db.define (db.drop kind ie qn)
  | .renameTable qn n => db.define (db.renameTable qn n)
  | .renameColumn qn old new => db.define (db.renameColumn qn old new)
  | .addColumn qn spec => db.define (db.addColumn qn spec)
  | .dropColumn qn n => db.define (db.dropColumn qn n)
  | .begin =>
    if db.inTransaction then (db, some (.logic "cannot start a transaction within a transaction"))
    else ({ db with began := some db.catalog, savepoints := [], openedBySavepoint := false }, none)
  | .commit =>
    if db.inTransaction then ({ db with began := none, savepoints := [] }, none)
    else (db, some (.logic "cannot commit - no transaction is active"))
  | .rollback none =>
    match db.began with
    | some b => ({ db with catalog := b, began := none, savepoints := [] }, none)
    | none => (db, some (.logic "cannot rollback - no transaction is active"))
  | .rollback (some n) =>
    match db.savepoints.findIdx? (sameName ·.1 n) with
    | some i =>
      let kept := db.savepoints.drop i
      ({ db with catalog := (kept.head?.map (·.2)).getD db.catalog, savepoints := kept }, none)
    | none => (db, some (.logic ("no such savepoint: " ++ n)))
  | .savepoint n =>
    if db.inTransaction then ({ db with savepoints := (n, db.catalog) :: db.savepoints }, none)
    else
      ({ db with
        began := some db.catalog, savepoints := [(n, db.catalog)], openedBySavepoint := true },
        none)
  | .release n =>
    match db.savepoints.findIdx? (sameName ·.1 n) with
    | some i =>
      let kept := db.savepoints.drop (i + 1)
      if kept.isEmpty && db.openedBySavepoint then ({ db with began := none, savepoints := [] }, none)
      else ({ db with savepoints := kept }, none)
    | none => (db, some (.logic ("no such savepoint: " ++ n)))
  | .pragma _ _ => (db, none)
  | .explain _ => (db, none)
  | .maintenance => (db, none)
  | .vacuum =>
    if db.inTransaction then (db, some (.logic "cannot VACUUM from within a transaction"))
    else (db, none)
  | .attach _ _ =>
    if db.inTransaction then (db, some (.logic "cannot ATTACH database within transaction"))
    else (db, none)
  | .detach n => (db, some (.logic ("no such database: " ++ n)))

/-- The names of a table's or view's columns, in order; none for a missing one. -/
def columnsOf (db : SqlDatabase) (name : String) : List String :=
  match SqlCheck.source fuel (db.env #[]) (.table ⟨none, name⟩ none) with
  | .ok frame => frame.flatMap fun b => b.columns.toList.map (·.name)
  | .error _ => []

/-- The number of rows of a table, or the refusal of a name that is no table. -/
def rowCount (db : SqlDatabase) (name : String) : Except SqlError Nat :=
  match db.catalog.table? name with
  | some t => .ok t.rows.size
  | none => .error (.logic ("no such table: " ++ name))

/-- Run one statement: check it, then run it. -/
def run (db : SqlDatabase) (s : SqlStatement) (params : Array SqlValue) :
    SqlDatabase × Option SqlError :=
  match check (db.env params) s with
  | .error e => (db, some e)
  | .ok () => db.execute params s

/-- The values of a statement's parameters from the arguments: `?` by its number, `?N` and
`$N` by `N`; any other name matches no argument. -/
def bindArguments (params : Array (Option String)) (args : List SqlValue) :
    Except SqlError (Array SqlValue) :=
  params.toList.zipIdx.toArray.mapM fun (nm, i) =>
    match nm with
    | none =>
      match args[i]? with
      | some v => .ok v
      | none => .error (.binding ("missing argument with index " ++ toString (i + 1)))
    | some n =>
      let rest := String.ofList (n.toList.drop 1)
      let byNumber := if n.startsWith "?" || n.startsWith "$" then
          (List.range args.length).find? fun k => toString (k + 1) == rest
        else none
      match byNumber with
      | some k => .ok (args[k]?.getD .null)
      | none => .error (.binding ("missing named argument \"" ++ rest ++ "\""))

/-- Run the statements of a text in order with the same arguments, each prepared when the
ones before it have run; the first refusal ends the text. -/
def exec (db : SqlDatabase) (text : String) (args : List SqlValue) : SqlDatabase × Option SqlError :=
  let toks := Lexeme.scan text
  go (toks.length + 1) db toks
where
  /-- The statements from a list of tokens on. -/
  go : Nat → SqlDatabase → List Lexeme → SqlDatabase × Option SqlError
    | 0, db, _ => (db, none)
    | fuel + 1, db, toks =>
      match SqlParse.nextStatement toks with
      | .error e => (db, some e)
      | .ok none => (db, none)
      | .ok (some (prep, rest)) =>
        match check (db.env #[]) prep.statement with
        | .error e => (db, some e)
        | .ok () =>
          match bindArguments prep.params args with
          | .error e => (db, some e)
          | .ok params =>
            match db.execute params prep.statement with
            | (db, some e) => (db, some e)
            | (db, none) => go fuel db rest

end SqlDatabase

end TradeLedger
