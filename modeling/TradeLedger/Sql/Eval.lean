import TradeLedger.Sql.Table
import TradeLedger.Sql.Func
import TradeLedger.Sql.Clock
import TradeLedger.Time.Civil
/-!
# Evaluating expressions and queries

An expression sees the rows of the sources in scope, innermost first, a column found by its
name, ambiguous when in two sources. Comparisons follow affinity and collation; null compares as
null, and `AND`, `OR`, `NOT` are three-valued. A query joins its sources left to right, filters,
groups and computes its columns; compound queries come out sorted without repeats. Names are
checked against the sources before any row is read.

## Main definitions

* `SqlEnv`: the sources in scope.
* `SqlEval.expr`, `SqlEval.query`: the value of an expression and the rows of a query.
-/

namespace TradeLedger

/-- What a column of a relation is known by: its name, and the affinity and collation of the
table column it came from, if it came from one. -/
structure ColumnInfo where
  name : String
  affinity : Option Affinity := none
  collation : Collation := .binary
  deriving Inhabited

/-- A source bound to one of its rows: the name it is known by, its columns, the row's values,
its rowid when the source has rowids (null for the missing row of an outer join), and whether
its columns are found only by names qualified with its name. -/
structure Binding where
  name : String
  columns : Array ColumnInfo
  values : Array SqlValue
  rowid : Option SqlValue := none
  qualifiedOnly : Bool := false
  deriving Inhabited

/-- One row of each source of a query. -/
abbrev Frame := List Binding

/-- Named columns and rows. -/
structure Relation where
  columns : Array ColumnInfo
  rows : List (Array SqlValue)
  deriving Inhabited

/-- What an expression is evaluated against: the catalog, the bound parameters, the rows in
scope (innermost first), the rows of the current group, the named subqueries, the clock and
the change counters. -/
structure SqlEnv where
  catalog : Catalog
  params : Array SqlValue := #[]
  frames : List Frame := []
  group : Option (List Frame) := none
  named : List (String × Relation) := []
  now : Int := 0
  changes : Nat := 0
  totalChanges : Nat := 0
  lastRowid : Int := 0
  /-- the result columns' aliases that a condition or group of the current query may name -/
  aliases : List (String × SqlExpr) := []
  deriving Inhabited

namespace Binding

/-- Whether a name is one of the names of the rowid. -/
def isRowidName (n : String) : Bool :=
  sameName n "rowid" || sameName n "oid" || sameName n "_rowid_"

/-- The value and column of a name in a binding; no column for the rowid. -/
def lookup (b : Binding) (n : String) : Option (SqlValue × Option ColumnInfo) :=
  match b.columns.findIdx? (sameName ·.name n) with
  | some i => some (b.values[i]?.getD .null, b.columns[i]?)
  | none => if isRowidName n then b.rowid.map fun r => (r, none) else none

/-- The same source with every value null. -/
def nulled (b : Binding) : Binding :=
  { b with values := b.values.map fun _ => .null, rowid := b.rowid.map fun _ => .null }

/-- A table's binding to one of its rows. -/
def ofRow (t : SqlTable) (name : String) (r : SqlRow) : Binding :=
  { name, values := r.values, rowid := if t.withoutRowid then none else some (.integer r.rowid),
    columns := t.columns.map fun c =>
      { name := c.name, affinity := some c.affinity, collation := c.collation } }

/-- A table's binding with no row. -/
def shapeOf (t : SqlTable) (name : String) : Binding :=
  (ofRow t name ⟨0, t.columns.map fun _ => .null⟩).nulled

end Binding

namespace SqlEval

/-- The text of a reference in a failure: the name, qualified if it was. -/
def refText (table : Option String) (n : String) : String :=
  match table with
  | some t => t ++ "." ++ n
  | none => n

/-- Find a column in the rows in scope, innermost first. -/
def resolveIn : List Frame → Option String → String →
    Except SqlError (Option (SqlValue × Option ColumnInfo))
  | [], _, _ => .ok none
  | f :: rest, table, n =>
    let candidates := f.filter fun b =>
      match table with
      | some t => sameName b.name t
      | none => !b.qualifiedOnly
    match candidates.filterMap (·.lookup n) with
    | [h] => .ok (some h)
    | [] => resolveIn rest table n
    | _ => .error (.logic ("ambiguous column name: " ++ refText table n))

def collationNamed (n : String) : Except SqlError Collation :=
  if sameName n "BINARY" then .ok .binary
  else if sameName n "NOCASE" then .ok .noCase
  else if sameName n "RTRIM" then .ok .rightTrim
  else .error (.logic ("no such collation sequence: " ++ n))

/-- The affinity an expression carries into a comparison: that of a column or a cast. -/
def affinityOf (env : SqlEnv) : SqlExpr → Option Affinity
  | .column t n _ =>
    match resolveIn env.frames t n with
    | .ok (some (_, some c)) => c.affinity
    | _ => none
  | .cast _ ty => some (Affinity.ofDeclared ty)
  | .collate e _ => affinityOf env e
  | _ => none

/-- The collation an expression carries: one named by `COLLATE`, and that of a column. -/
def collationOf (env : SqlEnv) : SqlExpr → Option Collation × Option Collation
  | .collate _ c => ((collationNamed c).toOption, none)
  | .column t n _ =>
    match resolveIn env.frames t n with
    | .ok (some (_, some c)) => (none, some c.collation)
    | _ => (none, none)
  | _ => (none, none)

/-- Whether an affinity is numeric. -/
def isNumeric : Affinity → Bool
  | .numeric => true
  | .integer => true
  | .real => true
  | _ => false

/-- The affinity a comparison applies: the numeric one of two columns if either is numeric,
none for two other columns, and the column's when only one side is a column. -/
def comparisonAffinity (a b : Option Affinity) : Option Affinity :=
  match a, b with
  | some x, some y => if isNumeric x || isNumeric y then some .numeric else none
  | some x, none => some x
  | none, some y => some y
  | none, none => none

/-- A value prepared for a comparison under an affinity; `other` is the other side. -/
def forComparison (aff : Option Affinity) (v other : SqlValue) : SqlValue :=
  match aff with
  | some a =>
    if isNumeric a then
      match v with
      | .text s => SqlValue.numericAffinity s
      | v => v
    else if a == .text then
      match v, other with
      | .integer _, .text _ => .text (v.textOf.getD "")
      | .real _, .text _ => .text (v.textOf.getD "")
      | v, _ => v
    else v
  | none => v

/-- The collation of a comparison: a named one on the left, then on the right, then the left
column's, then the right column's. -/
def comparisonCollation (env : SqlEnv) (a b : SqlExpr) : Collation :=
  let (ea, ca) := collationOf env a
  let (eb, cb) := collationOf env b
  (ea <|> eb <|> ca <|> cb).getD .binary

/-- Compare two values of a comparison; none when either is null. -/
def compareValues (aff : Option Affinity) (coll : Collation) (a b : SqlValue) : Option Ordering :=
  match a, b with
  | .null, _ => none
  | _, .null => none
  | a, b => some (SqlValue.order coll (forComparison aff a b) (forComparison aff b a))

/-- Whether two values are the same row value for `DISTINCT` and set operations: nulls are
the same as each other. -/
def sameValue (a b : SqlValue) : Bool :=
  match a, b with
  | .null, .null => true
  | .null, _ => false
  | _, .null => false
  | a, b => SqlValue.order .binary a b == .eq

/-- Whether two rows are the same row. -/
def sameRow (a b : Array SqlValue) : Bool :=
  a.size == b.size && (a.toList.zip b.toList).all fun (x, y) => sameValue x y

/-- The order of two rows, value by value. -/
def rowOrder (a b : Array SqlValue) : Ordering :=
  let rec go : List SqlValue → List SqlValue → Ordering
    | x :: xs, y :: ys =>
      match SqlValue.order .binary x y with
      | .eq => go xs ys
      | o => o
    | [], [] => .eq
    | [], _ => .lt
    | _, [] => .gt
  go a.toList b.toList

/-- Rows without repeats, the first of each kept. -/
def distinctRows (rows : List (Array SqlValue)) : List (Array SqlValue) :=
  rows.foldl (fun acc r => if acc.any (sameRow · r) then acc else acc ++ [r]) []

/-- Rows sorted and without repeats. -/
def sortedDistinct (rows : List (Array SqlValue)) : List (Array SqlValue) :=
  (distinctRows rows).mergeSort fun a b => rowOrder a b != .gt

/-- Whether an expression calls an aggregate function, outside subqueries. -/
def hasAggregate : SqlExpr → Bool
  | .call n _ args f =>
    SqlFunc.shape n args.length == .aggregate || args.attach.any (fun ⟨a, _⟩ => hasAggregate a) ||
      (match f with
        | some x => hasAggregate x
        | none => false)
  | .callAll _ _ => true
  | .unary _ e => hasAggregate e
  | .binary _ a b => hasAggregate a || hasAggregate b
  | .isNull e _ => hasAggregate e
  | .between e lo hi _ => hasAggregate e || hasAggregate lo || hasAggregate hi
  | .inList e items _ => hasAggregate e || items.attach.any (fun ⟨a, _⟩ => hasAggregate a)
  | .inQuery e _ _ => hasAggregate e
  | .pattern _ e p esc _ =>
    hasAggregate e || hasAggregate p ||
      (match esc with
        | some x => hasAggregate x
        | none => false)
  | .caseOf op arms other =>
    (match op with
      | some x => hasAggregate x
      | none => false) ||
    arms.attach.any (fun ⟨(c, v), _⟩ => hasAggregate c || hasAggregate v) ||
    (match other with
      | some x => hasAggregate x
      | none => false)
  | .cast e _ => hasAggregate e
  | .collate e _ => hasAggregate e
  | .vector items => items.attach.any (fun ⟨a, _⟩ => hasAggregate a)
  | _ => false
termination_by e => sizeOf e
decreasing_by
  all_goals simp_wf
  all_goals first
    | omega
    | (have h := List.sizeOf_lt_of_mem ‹_ ∈ _›; simp_all; omega)
    | (have h := List.sizeOf_lt_of_mem ‹_ ∈ _›; simp_all [Prod.mk.sizeOf_spec]; omega)

/-- The texts of the clock keywords for a time in milliseconds since the epoch. -/
def clockText (keyword : String) (nowMs : Int) : String :=
  let days := nowMs.fdiv 86400000
  let secs := (nowMs - days * 86400000) / 1000
  let d := civilOfDays days
  let date := padded 4 d.year.toNat ++ "-" ++ padded 2 d.month ++ "-" ++ padded 2 d.day
  let time := padded 2 (secs / 3600).toNat ++ ":" ++ padded 2 (secs % 3600 / 60).toNat ++ ":" ++
    padded 2 (secs % 60).toNat
  if keyword == "CURRENT_DATE" then date
  else if keyword == "CURRENT_TIME" then time
  else date ++ " " ++ time

/-- The result of a shift: by a negative amount the other way, by 64 or more all bits out. -/
def shift (left : Bool) (a b : Int) : Int :=
  let (left, b) := if b < 0 then (!left, if b > -64 then -b else 64) else (left, b)
  if 64 ≤ b then (if 0 ≤ a || left then 0 else -1)
  else if left then
    let w := (a * Int.pow 2 b.toNat) % (Int.pow 2 64)
    let w := if w < 0 then w + Int.pow 2 64 else w
    if w < Int.pow 2 63 then w else w - Int.pow 2 64
  else a.fdiv (Int.pow 2 b.toNat)

/-- Bitwise operations on 64-bit integers. -/
def bitwise (op : BinaryOp) (a b : Int) : Int :=
  let toWord (i : Int) : Nat := (if i < 0 then i + Int.pow 2 64 else i).toNat
  let ofWord (n : Nat) : Int := if n < Nat.pow 2 63 then n else (n : Int) - Int.pow 2 64
  match op with
  | .bitAnd => ofWord (toWord a &&& toWord b)
  | .bitOr => ofWord (toWord a ||| toWord b)
  | .shiftLeft => shift true a b
  | .shiftRight => shift false a b
  | _ => 0

/-- A scalar function on its evaluated arguments. -/
def scalar (env : SqlEnv) (fname : String) (args : List SqlValue) : Except SqlError SqlValue :=
  let u := SqlFunc.upper fname
  let arg (i : Nat) : SqlValue := args[i]?.getD .null
  let text (v : SqlValue) : String := v.textOf.getD ""
  let nullIfAny (f : Unit → SqlValue) : SqlValue :=
    if args.any (· == .null) then .null else f ()
  if u == "ABS" then
    match arg 0 with
    | .null => .ok .null
    | .integer i =>
      if i == SqlNumber.int64Min then .error (.logic "integer overflow") else .ok (.integer i.natAbs)
    | v => .ok (.real (Float.abs v.realValue))
  else if u == "CHANGES" then .ok (.integer env.changes)
  else if u == "TOTAL_CHANGES" then .ok (.integer env.totalChanges)
  else if u == "LAST_INSERT_ROWID" then .ok (.integer env.lastRowid)
  else if u == "CHAR" then
    .ok (.text (String.ofList (args.map fun v => Char.ofNat v.intValue.toNat)))
  else if u == "COALESCE" || u == "IFNULL" then .ok ((args.find? (· != .null)).getD .null)
  else if u == "CONCAT" then .ok (.text (String.join (args.map fun v => v.textOf.getD "")))
  else if u == "CONCAT_WS" then
    match args with
    | .null :: _ => .ok .null
    | sep :: rest => .ok (.text ((text sep).intercalate (rest.filterMap SqlValue.textOf)))
    | [] => .ok .null
  else if u == "IIF" || u == "IF" then
    .ok (if (arg 0).truth == some true then arg 1 else arg 2)
  else if u == "NULLIF" then
    .ok (if compareValues none .binary (arg 0) (arg 1) == some .eq then .null else arg 0)
  else if u == "LIKELY" || u == "UNLIKELY" || u == "LIKELIHOOD" then .ok (arg 0)
  else if u == "TYPEOF" then .ok (.text (arg 0).kindName)
  else if u == "LENGTH" then
    .ok (match arg 0 with
      | .null => .null
      | .blob bs => .integer bs.length
      | .text s => .integer (s.toList.takeWhile (· != '\x00')).length
      | v => .integer (text v).length)
  else if u == "OCTET_LENGTH" then
    .ok (match arg 0 with
      | .null => .null
      | v => .integer (SqlFunc.bytesOf v).length)
  else if u == "LOWER" then .ok (nullIfAny fun _ => .text (SqlFunc.lower (text (arg 0))))
  else if u == "UPPER" then .ok (nullIfAny fun _ => .text (SqlFunc.upper (text (arg 0))))
  else if u == "TRIM" || u == "LTRIM" || u == "RTRIM" then
    .ok (nullIfAny fun _ =>
      let set := if args.length < 2 then [' '] else (text (arg 1)).toList
      .text (SqlFunc.trim (text (arg 0)) set (u != "RTRIM") (u != "LTRIM")))
  else if u == "REPLACE" then
    .ok (nullIfAny fun _ => .text (SqlFunc.replace (text (arg 0)) (text (arg 1)) (text (arg 2))))
  else if u == "SUBSTR" || u == "SUBSTRING" then
    .ok (nullIfAny fun _ =>
      SqlFunc.substr (arg 0) (arg 1).intValue (if args.length < 3 then none else some (arg 2).intValue))
  else if u == "INSTR" then
    .ok (nullIfAny fun _ =>
      match arg 0, arg 1 with
      | .blob a, .blob b =>
        .integer (SqlFunc.instr (a.map fun x => Char.ofNat x.toNat) (b.map fun x => Char.ofNat x.toNat))
      | a, b => .integer (SqlFunc.instr (text a).toList (text b).toList))
  else if u == "HEX" then .ok (.text (SqlFunc.hex (SqlFunc.bytesOf (arg 0))))
  else if u == "QUOTE" then .ok (.text (SqlFunc.quote (arg 0)))
  else if u == "UNICODE" then
    .ok (match arg 0 with
      | .null => .null
      | v => match (text v).toList with
        | c :: _ => .integer c.toNat
        | [] => .null)
  else if u == "ZEROBLOB" || u == "RANDOMBLOB" then
    let n := (arg 0).intValue
    let n := if u == "ZEROBLOB" then n.toNat else (max 1 n).toNat
    if SqlFunc.lengthLimit < n then .error .tooBig
    else if SqlFunc.buildLimit < n then .ok .null
    else .ok (.blob (List.replicate n (if u == "ZEROBLOB" then 0 else 7)))
  else if u == "RANDOM" then
    .ok (.integer ((env.now * 6364136223846793005 + env.totalChanges * 1442695040888963407 +
      env.lastRowid) % 9223372036854775807))
  else if u == "SIGN" then
    .ok (match (arg 0).numeric with
      | .integer i => .integer (if i > 0 then 1 else if i < 0 then -1 else 0)
      | .real x => .integer (if x > 0 then 1 else if x < 0 then -1 else 0)
      | _ => .null)
  else if u == "ROUND" then
    .ok (match arg 0 with
      | .null => .null
      | v =>
        if args.length == 2 && arg 1 == .null then .null
        else .real (SqlFunc.round v.realValue (if args.length < 2 then 0 else (arg 1).intValue)))
  else if u == "MAX" || u == "MIN" then
    if args.any (· == .null) then .ok .null
    else
      let pick := fun (best v : SqlValue) =>
        let o := SqlValue.order .binary v best
        if (u == "MAX" && o == .gt) || (u == "MIN" && o == .lt) then v else best
      .ok (match args with
        | v :: rest => rest.foldl pick v
        | [] => .null)
  else if u == "LIKE" then
    .ok (nullIfAny fun _ =>
      let esc := if args.length < 3 then none else (text (arg 2)).toList.head?
      .ofTruth (some (SqlFunc.like (text (arg 0)) (text (arg 1)) esc)))
  else if u == "GLOB" then
    .ok (nullIfAny fun _ => .ofTruth (some (SqlFunc.glob (text (arg 0)) (text (arg 1)))))
  else if u == "SQLITE_VERSION" then .ok (.text "3.50.4")
  else if u == "PRINTF" || u == "FORMAT" then .ok (SqlFormat.printf args)
  else if u == "UNHEX" then
    let digits := (text (arg 0)).toList
    if digits.length % 2 == 0 && digits.all Lexeme.isHexDigit then .ok (.blob (Lexeme.hexBytes digits))
    else .ok .null
  else if let some v := SqlClock.call env.now u args then .ok v
  else if u == "PI" then .ok (.real 3.141592653589793)
  else if u == "CEIL" || u == "CEILING" || u == "FLOOR" || u == "TRUNC" then
    .ok (match (arg 0).numeric with
      | .integer i => .integer i
      | .real x =>
        .real (if u == "FLOOR" then x.floor else if u == "TRUNC" then
          (if x < 0 then -((-x).floor) else x.floor) else x.ceil)
      | _ => .null)
  else if u == "SQRT" || u == "EXP" || u == "LN" || u == "LOG10" || u == "LOG2" || u == "LOG" then
    .ok (match arg 0 with
      | .null => .null
      | v =>
        let x := v.realValue
        let r := if u == "SQRT" then x.sqrt else if u == "EXP" then x.exp else if u == "LN" then x.log
          else if u == "LOG2" then x.log2 else x.log10
        if r.isNaN then .null else .real r)
  else if u == "POW" || u == "POWER" then
    .ok (nullIfAny fun _ => .real (Float.pow (arg 0).realValue (arg 1).realValue))
  else if u == "MOD" then
    .ok (nullIfAny fun _ =>
      let y := (arg 1).realValue
      if y == 0.0 then .null else
        let x := (arg 0).realValue
        .real (x - y * (if x / y < 0 then -((-(x / y)).floor) else (x / y).floor)))
  else .error (.logic ("no such function: " ++ fname))

/-- An aggregate function over the values of a group. -/
def aggregate (fname : String) (values : List (List SqlValue)) (coll : Collation) :
    Except SqlError SqlValue :=
  let u := SqlFunc.upper fname
  let firsts := values.map fun vs => vs.headD .null
  let present := firsts.filter (· != .null)
  if u == "COUNT" then .ok (.integer (if values.all List.isEmpty then values.length else present.length))
  else if u == "SUM" || u == "TOTAL" || u == "AVG" then
    let nums := present.map SqlValue.numeric
    let allInts := nums.all fun
      | .integer _ => true
      | _ => false
    if u == "SUM" && allInts then
      if present.isEmpty then .ok .null
      else
        let s := nums.foldl (fun acc v => acc + v.intValue) 0
        if SqlNumber.fits s then .ok (.integer s) else .error (.logic "integer overflow")
    else
      let s := nums.foldl (fun acc v => acc + v.realValue) 0.0
      if u == "TOTAL" then .ok (.real s)
      else if present.isEmpty then .ok .null
      else if u == "AVG" then .ok (.real (s / (Binary64.ofInt present.length)))
      else .ok (.real s)
  else if u == "MAX" || u == "MIN" then
    let pick := fun (best v : SqlValue) =>
      let o := SqlValue.order coll v best
      if (u == "MAX" && o == .gt) || (u == "MIN" && o == .lt) then v else best
    .ok (match present with
      | v :: rest => rest.foldl pick v
      | [] => .null)
  else if u == "GROUP_CONCAT" || u == "STRING_AGG" then
    let pairs := values.filter fun vs => vs.headD .null != .null
    match pairs with
    | [] => .ok .null
    | first :: rest =>
      let sepOf (vs : List SqlValue) : String :=
        if u == "GROUP_CONCAT" && vs.length < 2 then "," else (((vs[1]?).getD SqlValue.null).textOf.getD "")
      let body := rest.foldl (fun acc vs => acc ++ sepOf vs ++ ((vs.headD .null).textOf.getD ""))
        ((first.headD .null).textOf.getD "")
      .ok (.text body)
  else .error (.logic ("no such function: " ++ fname))

/-- Values without repeats, for `DISTINCT` arguments. -/
def distinctValues (values : List (List SqlValue)) : List (List SqlValue) :=
  values.foldl (fun acc vs =>
    if acc.any (fun ws => sameRow ws.toArray vs.toArray) then acc else acc ++ [vs]) []

/-- The names of the columns of a `VALUES` list. -/
def valuesColumns (n : Nat) : Array ColumnInfo :=
  ((List.range n).map fun i => ({ name := "column" ++ toString (i + 1) } : ColumnInfo)).toArray

/-- The name of a result column: its alias, the column it reads, or its place. -/
def resultName (e : SqlExpr) (aliasName : Option String) (place : Nat) : String :=
  match aliasName, e with
  | some a, _ => a
  | none, .column _ n _ => n
  | none, _ => "column" ++ toString (place + 1)

/-- The column info of a result column read from the shape of the sources. -/
def resultInfo (env : SqlEnv) (e : SqlExpr) (aliasName : Option String) (place : Nat) : ColumnInfo :=
  let base : ColumnInfo := { name := resultName e aliasName place }
  match e with
  | .column t n _ =>
    match resolveIn env.frames t n with
    | .ok (some (_, some c)) => { base with affinity := c.affinity, collation := c.collation }
    | _ => base
  | .cast _ ty => { base with affinity := some (Affinity.ofDeclared ty) }
  | _ => base

/-- The columns and values of `*` or `t.*` over one row of the sources. -/
def starOf (frame : Frame) (table : Option String) : Except SqlError (List (ColumnInfo × SqlValue)) :=
  let bs := match table with
    | some t => frame.filter fun (b : Binding) => sameName b.name t
    | none => frame
  if bs.isEmpty && table.isSome then .error (.logic ("no such table: " ++ table.getD ""))
  else .ok (bs.flatMap fun (b : Binding) => (b.columns.toList.zip b.values.toList))

/-- The integer of a `LIMIT` or `OFFSET`: an integer, a real or text that is one; otherwise
the statement is refused. -/
def limitValue (v : SqlValue) : Except SqlError Int :=
  match v with
  | .integer i => .ok i
  | .real x => match SqlValue.integerAffinity x with
    | .integer i => .ok i
    | _ => .error .mismatch
  | .text s => match SqlValue.numericAffinity s with
    | .integer i => .ok i
    | _ => .error .mismatch
  | _ => .error .mismatch

/-- Rows after an offset and within a limit; a negative limit is none. -/
def cut {α : Type} (rows : List α) (limit offset : Option Int) : List α :=
  let rows := match offset with
    | some o => rows.drop o.toNat
    | none => rows
  match limit with
  | some l => if l < 0 then rows else rows.take l.toNat
  | none => rows

/-- Compare two sort keys: nulls first unless said otherwise, descending when said. -/
def keyOrder (coll : Collation) (descending : Bool) (nullsFirst : Option Bool)
    (a b : SqlValue) : Ordering :=
  let nf := nullsFirst.getD (!descending)
  match a, b with
  | .null, .null => .eq
  | .null, _ => if nf then .lt else .gt
  | _, .null => if nf then .gt else .lt
  | a, b =>
    let o := SqlValue.order coll a b
    if descending then o.swap else o

/-- Compare two rows' sort keys. -/
def keysOrder (spec : List (Collation × Bool × Option Bool)) (a b : List SqlValue) : Ordering :=
  match spec, a, b with
  | (c, d, n) :: rest, x :: xs, y :: ys =>
    match keyOrder c d n x y with
    | .eq => keysOrder rest xs ys
    | o => o
  | _, _, _ => .eq

/-- Whether a source is named in a query, for telling a recursive subquery. -/
def mentions (n : String) : SqlQuery → Bool
  | .select _ _ src _ _ _ => sourceMentions src
  | .values _ => false
  | .compound _ a b => mentions n a || mentions n b
  | .ordered q _ _ _ => mentions n q
  | .withTables _ _ body => mentions n body
where
  /-- Whether a source names the table. -/
  sourceMentions : Option SqlSource → Bool
    | some (.table q _) => sameName q.name n
    | some (.join _ _ l r _ _) => sourceMentions (some l) || sourceMentions (some r)
    | _ => false

/-- The first part of an ordinal, for the sort failures: `1st`, `2nd`, `3rd`, `4th`. -/
def ordinal (n : Nat) : String :=
  let suffix := if n % 100 / 10 == 1 then "th"
    else if n % 10 == 1 then "st" else if n % 10 == 2 then "nd" else if n % 10 == 3 then "rd"
    else "th"
  toString n ++ suffix

/-- The word of a compound operator in a failure. -/
def compoundWord : CompoundOp → String
  | .union => "UNION"
  | .unionAll => "UNION ALL"
  | .intersect => "INTERSECT"
  | .except => "EXCEPT"

/-- The result of comparing row values item by item. -/
def vectorResult (op : BinaryOp) (os : List (Option Ordering)) : SqlValue :=
  let firstDiff := os.find? (· != some .eq)
  match op with
  | .eq => match firstDiff with
    | none => .integer 1
    | some none => if os.any (· == some .lt) || os.any (· == some .gt) then .integer 0 else .null
    | some _ => .integer 0
  | .ne => match firstDiff with
    | none => .integer 0
    | some none => if os.any (· == some .lt) || os.any (· == some .gt) then .integer 1 else .null
    | some _ => .integer 1
  | .is => .ofTruth (some (firstDiff.isNone))
  | .isNot => .ofTruth (some (firstDiff.isSome))
  | _ => match firstDiff with
    | none => .ofTruth (some (op == .le || op == .ge))
    | some none => .null
    | some (some o) => .ofTruth (some (match op with
      | .lt => o == .lt
      | .le => o == .lt
      | .gt => o == .gt
      | _ => o == .gt))

/-- The truth of a membership test from the comparisons with each member. -/
def membershipResult (empty valueNull : Bool) (found : List (Option Ordering)) (negated : Bool) :
    Option Bool :=
  let r : Option Bool :=
    if empty then some false
    else if valueNull then none
    else if found.any (· == some .eq) then some true
    else if found.any Option.isNone then none
    else some false
  if negated then r.map (!·) else r

/-- The number a sort or group term gives when it is an integer literal, perhaps signed: it
names a result column by its place. -/
def termPosition : SqlExpr → Option Int
  | .value (.integer k) => some k
  | .unary .negate (.value (.integer k)) => some (-k)
  | .unary .plus (.value (.integer k)) => some k
  | _ => none

/-- The aliases result columns give their expressions with `AS`. -/
def aliasesOf (cols : List ResultColumn) : List (String × SqlExpr) :=
  cols.filterMap fun
    | .expr e (some a) => some (a, e)
    | _ => none

/-- The result columns as expressions, each star spelled out as the columns it stands for. -/
def expandedColumns (frame : Frame) (cols : List ResultColumn) : List SqlExpr :=
  cols.flatMap fun
    | .all => frame.flatMap fun b => b.columns.toList.map fun c => .column (some b.name) c.name false
    | .allOf t => (frame.filter (sameName ·.name t)).flatMap fun b =>
      b.columns.toList.map fun c => .column (some b.name) c.name false
    | .expr e _ => [e]

/-- The failure of a sort or group term whose place is not a result column's. -/
def termOutOfRange (clause : String) (k count : Nat) : SqlError :=
  .logic (ordinal k ++ " " ++ clause ++ " BY term out of range - should be between 1 and " ++
    toString count)

/-- The group terms with each place replaced by the result column it names. -/
def groupTerms (frame : Frame) (cols : List ResultColumn) (terms : List SqlExpr) :
    Except SqlError (List SqlExpr) :=
  let results := expandedColumns frame cols
  terms.zipIdx.mapM fun (g, k) =>
    match termPosition g with
    | some p =>
      if p < 1 || results.length < p.toNat then .error (termOutOfRange "GROUP" (k + 1) results.length)
      else .ok (results[p.toNat - 1]?.getD g)
    | none => .ok g

/-- The result column a sort term names: by number, or by alias or name. -/
def orderColumn (cols : Array ColumnInfo) (e : SqlExpr) : Option Nat :=
  match termPosition e with
  | some k => if 1 ≤ k && k ≤ cols.size then some (k.toNat - 1) else none
  | none =>
  match e with
  | .column none n _ => cols.findIdx? (sameName ·.name n)
  | .collate inner _ => orderColumn cols inner
  | _ => none

/-- Rows sorted by key, cut into runs of equal keys. -/
def groupRuns (sorted : List (Frame × List SqlValue)) : List (List Frame) :=
  let runs := sorted.foldl (fun (acc : List (List SqlValue × List Frame)) (f, k) =>
    match acc with
    | (k0, fs) :: rest => if sameRow k0.toArray k.toArray then (k0, fs ++ [f]) :: rest
      else (k, [f]) :: acc
    | [] => [(k, [f])]) []
  runs.reverse.map (·.2)

def resultInfos (env : SqlEnv) (cols : List ResultColumn) : Except SqlError (Array ColumnInfo) := do
  let frame := env.frames.headD []
  let parts ← cols.zipIdx.mapM fun (c, i) => do
    match c with
    | .all => pure ((← starOf frame none).map (·.1))
    | .allOf t => pure ((← starOf frame (some t)).map (·.1))
    | .expr e a => pure [resultInfo env e a i]
  pure parts.flatten.toArray

/-- A schema name must be the main or the temporary one. -/
def checkSchema (qn : QualifiedName) : Except SqlError Unit :=
  match qn.schema with
  | some s =>
    if sameName s "main" || sameName s "temp" then .ok ()
    else .error (.logic ("unknown database " ++ s))
  | none => .ok ()

/-- A name with its schema, as a failure quotes it. -/
def qualifiedText (qn : QualifiedName) : String :=
  match qn.schema with
  | some s => s ++ "." ++ qn.name
  | none => qn.name

/-- A relation with its columns renamed by a subquery's column list. -/
def renamed (n : String) (cols : List String) (rel : Relation) : Except SqlError Relation :=
  if cols.isEmpty then .ok rel
  else if cols.length != rel.columns.size then
    .error (.logic ("table " ++ n ++ " has " ++ toString rel.columns.size ++
      " values for " ++ toString cols.length ++ " columns"))
  else .ok { rel with columns := (cols.zip rel.columns.toList).toArray.map fun (c, i) => { i with name := c } }

def isSchemaTable (n : String) : Bool :=
  sameName n "sqlite_master" || sameName n "sqlite_schema" || sameName n "sqlite_temp_master" ||
    sameName n "sqlite_temp_schema"

/-- The schema table: one row per table, index, view and trigger. -/
def schemaRelation (c : Catalog) : Relation :=
  let cols : Array ColumnInfo := #["type", "name", "tbl_name", "rootpage", "sql"].map fun n =>
    { name := n, affinity := some (if n == "rootpage" then .integer else .text) }
  let row := fun (kind name table : String) (page : Nat) =>
    #[SqlValue.text kind, .text name, .text table, .integer page, .null]
  let tables := c.tables.zipIdx.map fun (t, i) => row "table" t.name t.name (i + 2)
  let indexes := c.indexes.map fun x => row "index" x.name x.table 0
  let views := c.views.map fun v => row "view" v.name v.name 0
  let triggers := c.triggers.map fun t => row "trigger" t.name t.table 0
  { columns := cols, rows := tables ++ indexes ++ views ++ triggers }

mutual

/-- The value of an expression. -/
def expr : Nat → SqlEnv → SqlExpr → Except SqlError SqlValue
  | 0, _, _ => .error (.logic "expression too deep")
  | fuel + 1, env, e =>
    match e with
    | .value v => .ok v
    | .parameter i => .ok (env.params[i - 1]?.getD .null)
    | .column t n dq => do
      match ← resolveIn env.frames t n with
      | some (v, _) => pure v
      | none =>
        if let some (_, a) := (if t.isNone then env.aliases.find? (sameName ·.1 n) else none) then
          expr fuel { env with aliases := [] } a
        else if t.isNone && sameName n "TRUE" then pure (.integer 1)
        else if t.isNone && sameName n "FALSE" then pure (.integer 0)
        else if t.isNone && dq then pure (.text n)
        else throw (.logic ("no such column: " ++ refText t n))
    | .unary op a => do
      let v ← expr fuel env a
      match op with
      | .negate =>
        match v with
        | .null => pure .null
        | .integer i =>
          if i == SqlNumber.int64Min then pure (.real (Binary64.ofInt (-i))) else pure (.integer (-i))
        | .real x => pure (.real (-x))
        | v => pure (SqlValue.arith .sub (.integer 0) v)
      | .plus => pure v
      | .not => pure (SqlValue.ofTruth (v.truth.map (!·)))
      | .bitNot => pure (if v == .null then .null else .integer (-(v.intValue) - 1))
    | .binary op a b =>
      match op with
      | .and => do
        let x := (← expr fuel env a).truth
        if x == some false then pure (.integer 0)
        else
          let y := (← expr fuel env b).truth
          pure (match x, y with
            | _, some false => .integer 0
            | some true, some true => .integer 1
            | _, _ => .null)
      | .or => do
        let x := (← expr fuel env a).truth
        if x == some true then pure (.integer 1)
        else
          let y := (← expr fuel env b).truth
          pure (match x, y with
            | _, some true => .integer 1
            | some false, some false => .integer 0
            | _, _ => .null)
      | .arith aop => do
        pure (SqlValue.arith aop (← expr fuel env a) (← expr fuel env b))
      | .concat => do
        let x ← expr fuel env a
        let y ← expr fuel env b
        pure (match x.textOf, y.textOf with
          | some s, some t => .text (s ++ t)
          | _, _ => .null)
      | .bitAnd | .bitOr | .shiftLeft | .shiftRight => do
        let x ← expr fuel env a
        let y ← expr fuel env b
        if x == .null || y == .null then pure .null
        else pure (.integer (bitwise op x.intValue y.intValue))
      | .extract _ => throw (.logic "malformed JSON")
      | _ => do
        match a, b with
        | .vector xs, .vector ys =>
          if xs.length != ys.length then throw (.logic "row value misused")
          let xv ← exprs fuel env xs
          let yv ← exprs fuel env ys
          let os := (xs.zip ys).zip (xv.zip yv) |>.map fun ((ea, eb), (va, vb)) =>
            compareValues (comparisonAffinity (affinityOf env ea) (affinityOf env eb))
              (comparisonCollation env ea eb) va vb
          pure (vectorResult op os)
        | .vector _, _ => throw (.logic "row value misused")
        | _, .vector _ => throw (.logic "row value misused")
        | _, _ =>
          let x ← expr fuel env a
          let y ← expr fuel env b
          let aff := comparisonAffinity (affinityOf env a) (affinityOf env b)
          let coll := comparisonCollation env a b
          let o := compareValues aff coll x y
          pure (match op with
            | .is => .ofTruth (some (if x == .null || y == .null then x == .null && y == .null
                else o == some .eq))
            | .isNot => .ofTruth (some (if x == .null || y == .null then !(x == .null && y == .null)
                else o != some .eq))
            | .eq => .ofTruth (o.map (· == .eq))
            | .ne => .ofTruth (o.map (· != .eq))
            | .lt => .ofTruth (o.map (· == .lt))
            | .le => .ofTruth (o.map (· != .gt))
            | .gt => .ofTruth (o.map (· == .gt))
            | .ge => .ofTruth (o.map (· != .lt))
            | _ => .null)
    | .isNull a negated => do
      let v ← expr fuel env a
      pure (.ofTruth (some ((v == .null) != negated)))
    | .between a lo hi negated => do
      let v ← expr fuel env a
      let l ← expr fuel env lo
      let h ← expr fuel env hi
      let aff1 := comparisonAffinity (affinityOf env a) (affinityOf env lo)
      let aff2 := comparisonAffinity (affinityOf env a) (affinityOf env hi)
      let c1 := (compareValues aff1 (comparisonCollation env a lo) v l).map (· != .lt)
      let c2 := (compareValues aff2 (comparisonCollation env a hi) v h).map (· != .gt)
      let r : Option Bool := match c1, c2 with
        | some false, _ => some false
        | _, some false => some false
        | some true, some true => some true
        | _, _ => none
      pure (.ofTruth (if negated then r.map (!·) else r))
    | .inList a items negated => do
      let v ← expr fuel env a
      let vs ← exprs fuel env items
      let found := (items.zip vs).map fun (ei, vi) =>
        compareValues (comparisonAffinity (affinityOf env a) (affinityOf env ei))
          (comparisonCollation env a ei) v vi
      pure (.ofTruth (membershipResult items.isEmpty (v == .null) found negated))
    | .inQuery a q negated => do
      let v ← expr fuel env a
      let rel ← query fuel env q
      if rel.columns.size != 1 then
        throw (.logic ("sub-select returns " ++ toString rel.columns.size ++ " columns - expected 1"))
      let qaff := rel.columns[0]?.bind (·.affinity)
      let aff := comparisonAffinity (affinityOf env a) qaff
      let coll := comparisonCollation env a a
      let found := rel.rows.map fun r => compareValues aff coll v (r[0]?.getD .null)
      pure (.ofTruth (membershipResult rel.rows.isEmpty (v == .null) found negated))
    | .exists q => do
      let rel ← query fuel env q
      pure (.ofTruth (some !rel.rows.isEmpty))
    | .subquery q => do
      let rel ← query fuel env q
      if rel.columns.size != 1 then
        throw (.logic ("sub-select returns " ++ toString rel.columns.size ++ " columns - expected 1"))
      pure (match rel.rows with
        | r :: _ => r[0]?.getD .null
        | [] => .null)
    | .pattern op a p esc negated => do
      let v ← expr fuel env a
      let pv ← expr fuel env p
      let ev ← match esc with
        | some x => some <$> expr fuel env x
        | none => pure none
      match op with
      | .regexp => throw (.logic "no such function: REGEXP")
      | .match => throw (.logic "unable to use function MATCH in the requested context")
      | _ =>
        if v == .null || pv == .null || ev == some .null then pure .null
        else
          let escChar ← match ev with
            | some e =>
              match (e.textOf.getD "").toList with
              | [c] => pure (some c)
              | _ => throw (.logic "ESCAPE expression must be a single character")
            | none => pure none
          let hit := if op == .glob then SqlFunc.glob (pv.textOf.getD "") (v.textOf.getD "")
            else SqlFunc.like (pv.textOf.getD "") (v.textOf.getD "") escChar
          pure (.ofTruth (some (hit != negated)))
    | .caseOf operand arms otherwise => do
      let base ← match operand with
        | some o => some <$> expr fuel env o
        | none => pure none
      let mut result : Option SqlValue := none
      for (c, r) in arms do
        let hit ← match base, operand with
          | some bv, some o => do
            let cv ← expr fuel env c
            let aff := comparisonAffinity (affinityOf env o) (affinityOf env c)
            pure (compareValues aff (comparisonCollation env o c) bv cv == some .eq)
          | _, _ => do pure ((← expr fuel env c).truth == some true)
        if hit then
          result := some (← expr fuel env r)
          break
      match result with
      | some v => pure v
      | none =>
        match otherwise with
        | some o => expr fuel env o
        | none => pure .null
    | .cast a ty => do
      pure (SqlValue.cast (Affinity.ofDeclared ty) (← expr fuel env a))
    | .call n distinct args filter =>
      match SqlFunc.shape n args.length with
      | .aggregate =>
        match env.group with
        | some frames => groupValue fuel env n distinct args filter frames
        | none => .error (.logic ("misuse of aggregate function " ++ n ++ "()"))
      | .scalar => do
        if distinct then throw (.logic ("DISTINCT aggregates must have exactly one argument"))
        scalar env n (← exprs fuel env args)
      | .wrongCount => .error (.logic ("wrong number of arguments to function " ++ n ++ "()"))
      | .unknown => .error (.logic ("no such function: " ++ n))
    | .callAll n filter =>
      if SqlFunc.upper n != "COUNT" then .error (.unexpected "*")
      else match env.group with
        | some frames => groupValue fuel env n false [] filter frames
        | none => .error (.logic ("misuse of aggregate function " ++ n ++ "()"))
    | .collate a c => do
      discard (collationNamed c)
      expr fuel env a
    | .vector _ => .error (.logic "row value misused")
    | .clock k => .ok (.text (clockText k env.now))

/-- The values of expressions, in order. -/
def exprs : Nat → SqlEnv → List SqlExpr → Except SqlError (List SqlValue)
  | 0, _, _ => .error (.logic "expression too deep")
  | fuel + 1, env, es => es.mapM (expr fuel env)

/-- An aggregate over the rows of a group, each row's arguments evaluated in that row. -/
def groupValue : Nat → SqlEnv → String → Bool → List SqlExpr → Option SqlExpr → List Frame →
    Except SqlError SqlValue
  | 0, _, _, _, _, _, _ => .error (.logic "expression too deep")
  | fuel + 1, env, n, distinct, args, filter, frames => do
    let rowEnv := fun (f : Frame) => { env with frames := f :: env.frames.drop 1, group := none }
    let kept ← frames.filterM fun f => do
      match filter with
      | some c => pure ((← expr fuel (rowEnv f) c).truth == some true)
      | none => pure true
    let values ← kept.mapM fun f => exprs fuel (rowEnv f) args
    let values := if distinct then distinctValues values else values
    let coll := match args with
      | a :: _ => let (x, y) := collationOf env a
        (x <|> y).getD .binary
      | [] => .binary
    aggregate n values coll

def query : Nat → SqlEnv → SqlQuery → Except SqlError Relation
  | 0, _, _ => .error (.logic "query too deep")
  | fuel + 1, env, q => do
    let (cols, rows) ← queryRows fuel env q
    pure ⟨cols, rows.map (·.1)⟩

/-- The rows of a query, each with the scope its sort keys are read in. -/
def queryRows : Nat → SqlEnv → SqlQuery →
    Except SqlError (Array ColumnInfo × List (Array SqlValue × SqlEnv))
  | 0, _, _ => .error (.logic "query too deep")
  | fuel + 1, env, q =>
    match q with
    | .select distinct cols src filter groupBy having =>
      select fuel env distinct cols src filter groupBy having
    | .values rows => do
      let width := (rows.headD []).length
      if rows.any (·.length != width) then throw (.logic "all VALUES must have the same number of terms")
      let vals ← rows.mapM fun r => exprs fuel env r
      pure (valuesColumns width, vals.map fun r => (r.toArray, env))
    | .compound op a b => do
      let ra ← query fuel env a
      let rb ← query fuel env b
      if ra.columns.size != rb.columns.size then
        throw (.logic ("SELECTs to the left and right of " ++ compoundWord op ++
          " do not have the same number of result columns"))
      let rows := match op with
        | .unionAll => ra.rows ++ rb.rows
        | .union => sortedDistinct (ra.rows ++ rb.rows)
        | .intersect => sortedDistinct (ra.rows.filter fun r => rb.rows.any (sameRow · r))
        | .except => sortedDistinct (ra.rows.filter fun r => !rb.rows.any (sameRow · r))
      pure (ra.columns, rows.map fun r => (r, env))
    | .ordered inner terms limit offset => do
      let (cols, rows) ← queryRows fuel env inner
      let simpleSelect := match inner with
        | .select .. => true
        | _ => false
      let keyed ← rows.mapM fun (r, renv) => do
        let keys ← terms.mapM fun (.mk e _ _) => sortKey fuel renv cols r simpleSelect e
        pure (r, renv, keys)
      let spec ← terms.mapM fun (.mk e d n) => do
        let coll := match e with
          | .collate _ c => (collationNamed c).toOption.getD .binary
          | _ => (orderColumn cols e).bind (fun i => cols[i]?.map (·.collation)) |>.getD
            (match e with
              | .column t nm _ =>
                match rows.head? with
                | some (_, renv) => (collationOf renv (.column t nm false)).2.getD .binary
                | none => .binary
              | _ => .binary)
        pure (coll, d, n)
      let sorted := keyed.mergeSort fun (_, _, ka) (_, _, kb) => keysOrder spec ka kb != .gt
      let lim ← match limit with
        | some l => some <$> (limitValue (← expr fuel env l))
        | none => pure none
      let off ← match offset with
        | some o => some <$> (limitValue (← expr fuel env o))
        | none => pure none
      pure (cols, cut (sorted.map fun (r, renv, _) => (r, renv)) lim off)
    | .withTables recursive tables body => do
      let env ← withNamed fuel env recursive tables
      queryRows fuel env body

/-- The value a sort term gives a row: a result column by number or alias, or an expression
over the row's sources. -/
def sortKey : Nat → SqlEnv → Array ColumnInfo → Array SqlValue → Bool → SqlExpr →
    Except SqlError SqlValue
  | 0, _, _, _, _, _ => .error (.logic "expression too deep")
  | fuel + 1, env, cols, row, simpleSelect, e =>
    match orderColumn cols e with
    | some i => .ok (row[i]?.getD .null)
    | none =>
      if simpleSelect then expr fuel env e
      else .error (.logic "1st ORDER BY term does not match any column in the result set")

/-- The select of a query: its sources, condition, groups and columns. -/
def select : Nat → SqlEnv → Bool → List ResultColumn → Option SqlSource → Option SqlExpr →
    List SqlExpr → Option SqlExpr →
    Except SqlError (Array ColumnInfo × List (Array SqlValue × SqlEnv))
  | 0, _, _, _, _, _, _, _ => .error (.logic "query too deep")
  | fuel + 1, env, distinct, cols, src, filter, groupBy, having => do
    let (shape, frames) ← match src with
      | some s => source fuel env s
      | none => pure ([], [[]])
    let inScope := fun (f : Frame) => { env with frames := f :: env.frames, group := none }
    let named := fun (e : SqlEnv) => { e with aliases := aliasesOf cols ++ env.aliases }
    let groupBy ← groupTerms shape cols groupBy
    let kept ← frames.filterM fun f => do
      match filter with
      | some c => pure ((← expr fuel (named (inScope f)) c).truth == some true)
      | none => pure true
    let grouped := !groupBy.isEmpty || cols.any (fun
        | .expr e _ => hasAggregate e
        | _ => false) || (having.map hasAggregate).getD false
    let shapeEnv := inScope shape
    let infos ← resultInfos shapeEnv cols
    let rows ← if !grouped then
        kept.mapM fun f => do
          let renv := inScope f
          pure ((← resultRow fuel renv cols).toArray, renv)
      else do
        let groups ← if groupBy.isEmpty then pure [kept]
          else do
            let keyed ← kept.mapM fun f => do pure (f, ← exprs fuel (named (inScope f)) groupBy)
            let sorted := keyed.mergeSort fun (_, a) (_, b) => rowOrder a.toArray b.toArray != .gt
            pure (groupRuns sorted)
        let out ← groups.filterMapM fun g => do
          let last := g.getLast?.getD shape
          let genv := { env with frames := last :: env.frames, group := some g }
          let keep ← match having with
            | some h => pure ((← expr fuel (named genv) h).truth == some true)
            | none => pure true
          if keep then pure (some ((← resultRow fuel genv cols).toArray, genv)) else pure none
        pure out
    let rows := if distinct then
        rows.foldl (fun acc (r, renv) => if acc.any (sameRow ·.1 r) then acc else acc ++ [(r, renv)]) []
      else rows
    pure (infos, rows)

/-- The values of the result columns in one row's scope. -/
def resultRow : Nat → SqlEnv → List ResultColumn → Except SqlError (List SqlValue)
  | 0, _, _ => .error (.logic "query too deep")
  | fuel + 1, env, cols => do
    let frame := env.frames.headD []
    let parts ← cols.mapM fun c => do
      match c with
      | .all => pure ((← starOf frame none).map (·.2))
      | .allOf t => pure ((← starOf frame (some t)).map (·.2))
      | .expr e _ => pure [← expr fuel env e]
    pure parts.flatten

/-- The sources of a query: the shape of a row (every value null) and the rows. -/
def source : Nat → SqlEnv → SqlSource → Except SqlError (Frame × List Frame)
  | 0, _, _ => .error (.logic "query too deep")
  | fuel + 1, env, s =>
    match s with
    | .table qn aliasName => do
      let bname := aliasName.getD qn.name
      let fromNamed := if qn.schema.isNone then env.named.find? (sameName ·.1 qn.name) else none
      match fromNamed with
      | some (_, rel) =>
        let mk := fun (vals : Array SqlValue) => ({ name := bname, columns := rel.columns, values := vals } : Binding)
        pure ([(mk (rel.columns.map fun _ => .null))], rel.rows.map fun r => [mk r])
      | none =>
        checkSchema qn
        match env.catalog.table? qn.name with
        | some t =>
          pure ([Binding.shapeOf t bname], t.rows.toList.map fun r => [Binding.ofRow t bname r])
        | none =>
          if isSchemaTable qn.name then
            let rel := schemaRelation env.catalog
            let mk := fun (vals : Array SqlValue) => ({ name := bname, columns := rel.columns, values := vals } : Binding)
            return ([mk (rel.columns.map fun _ => .null)], rel.rows.map fun r => [mk r])
          match env.catalog.view? qn.name with
          | some v => do
            let rel ← query fuel { env with frames := [], group := none } v.query
            let cols := if v.columns.isEmpty then rel.columns
              else (v.columns.zip rel.columns.toList).toArray.map fun (n, c) => { c with name := n }
            let mk := fun (vals : Array SqlValue) => ({ name := bname, columns := cols, values := vals } : Binding)
            pure ([mk (cols.map fun _ => .null)], rel.rows.map fun r => [mk r])
          | none => throw (.logic ("no such table: " ++ qualifiedText qn))
    | .query q aliasName => do
      let rel ← query fuel { env with group := none } q
      let bname := aliasName.getD ""
      let mk := fun (vals : Array SqlValue) => ({ name := bname, columns := rel.columns, values := vals } : Binding)
      pure ([mk (rel.columns.map fun _ => .null)], rel.rows.map fun r => [mk r])
    | .function n _ _ => throw (.logic ("no such table: " ++ n))
    | .join kind natural l r on usingCols => do
      let (ls, lfs) ← source fuel env l
      let (rs, rfs) ← source fuel env r
      let shared := if natural then
          (rs.flatMap fun b => b.columns.toList.map (·.name)).filter fun n =>
            ls.any fun b => b.columns.any (sameName ·.name n)
        else usingCols
      for n in shared do
        if !(ls.any fun b => b.columns.any (sameName ·.name n)) ||
            !(rs.any fun b => b.columns.any (sameName ·.name n)) then
          throw (.logic ("cannot join using column " ++ n ++ " - column not present in both tables"))
      let holds := fun (lf rf : Frame) => do
        let sameShared := shared.all fun n =>
          let lv := (lf.findSome? (·.lookup n)).map (·.1)
          let rv := (rf.findSome? (·.lookup n)).map (·.1)
          match lv, rv with
          | some a, some b => compareValues none .binary a b == some .eq
          | _, _ => false
        if !sameShared then pure false
        else match on with
          | some c => pure ((← expr fuel { env with frames := (lf ++ rf) :: env.frames, group := none } c).truth == some true)
          | none => pure true
      let nullR := rs.map Binding.nulled
      let nullL := ls.map Binding.nulled
      let mut rows : List Frame := []
      let mut matchedRight : List Nat := []
      for lf in lfs do
        let mut any := false
        for (rf, j) in rfs.zipIdx do
          if ← holds lf rf then
            rows := rows ++ [lf ++ rf]
            any := true
            matchedRight := j :: matchedRight
        if !any && (kind == .left || kind == .full) then rows := rows ++ [lf ++ nullR]
      if kind == .right || kind == .full then
        for (rf, j) in rfs.zipIdx do
          if !matchedRight.contains j then rows := rows ++ [nullL ++ rf]
      pure (ls ++ rs, rows)

/-- The named subqueries of a `WITH`, each evaluated in turn, a recursive one to its fixed
point. -/
def withNamed : Nat → SqlEnv → Bool → List CommonTable → Except SqlError SqlEnv
  | 0, _, _, _ => .error (.logic "query too deep")
  | fuel + 1, env, _recursive, tables =>
    tables.foldlM (fun env (.mk n cols q) => do
      let rel ← if mentions n q then recursiveRelation fuel env n cols q
        else query fuel env q
      let rel ← renamed n cols rel
      pure { env with named := (n, rel) :: env.named }) env

/-- A recursive subquery: its first part, then its second part run on the rows last added
until it adds none. -/
def recursiveRelation : Nat → SqlEnv → String → List String → SqlQuery → Except SqlError Relation
  | 0, _, _, _, _ => .error (.logic "query too deep")
  | fuel + 1, env, n, cols, q => do
    let (core, limit) ← match q with
      | .ordered inner [] lim none => do
        match lim with
        | some l => pure (inner, some (← limitValue (← expr fuel env l)))
        | none => pure (inner, none)
      | other => pure (other, none)
    match core with
    | .compound op first second =>
      if op != .union && op != .unionAll then
        throw (.logic ("recursive aggregate queries not supported"))
      let start ← query fuel env first
      let start ← renamed n cols start
      let mut all : Array (Array SqlValue) := start.rows.toArray
      let mut queue := start.rows
      for _ in [0:1000000] do
        if queue.isEmpty then break
        if limit.any (fun l => 0 ≤ l && l.toNat ≤ all.size) then break
        let step ← query fuel { env with named := (n, { start with rows := queue }) :: env.named } second
        let fresh := if op == .union then distinctRows (step.rows.filter fun r => !all.any (sameRow · r))
          else step.rows
        all := all ++ fresh.toArray
        queue := fresh
      let kept := match limit with
        | some l => if l < 0 then all.toList else (all.extract 0 l.toNat).toList
        | none => all.toList
      pure { start with rows := kept }
    | _ => throw (.logic ("circular reference: " ++ n))

end


end SqlEval

end TradeLedger
