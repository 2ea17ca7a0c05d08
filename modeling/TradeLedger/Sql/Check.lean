import TradeLedger.Sql.Eval
/-!
# Checking names before a statement runs

A statement is checked before it runs, its sources standing for all-null rows. The check refuses
a table, column, function or collation the database lacks, a wrong argument count, a misplaced
aggregate, and queries of different widths combined, even where no row would reach them.

## Main definitions

* `SqlCheck.query`: the check of a query, returning the columns it produces.
-/

namespace TradeLedger

namespace SqlCheck

open SqlEval

/-- The columns of a relation as a row of nulls under a name. -/
def shapeOf (name : String) (cols : Array ColumnInfo) : Binding :=
  { name, columns := cols, values := cols.map fun _ => .null }

mutual

/-- Check an expression; `aggregates` says whether an aggregate may stand in it. -/
def expr : Nat → SqlEnv → Bool → SqlExpr → Except SqlError Unit
  | 0, _, _, _ => .error (.logic "expression too deep")
  | fuel + 1, env, aggregates, e =>
    match e with
    | .value _ => .ok ()
    | .parameter _ => .ok ()
    | .clock _ => .ok ()
    | .column t n dq => do
      match ← resolveIn env.frames t n with
      | some _ => pure ()
      | none =>
        if let some (_, a) := (if t.isNone then env.aliases.find? (sameName ·.1 n) else none) then
          expr fuel { env with aliases := [] } aggregates a
        else if t.isNone && (sameName n "TRUE" || sameName n "FALSE" || dq) then pure ()
        else throw (.logic ("no such column: " ++ refText t n))
    | .unary _ a => expr fuel env aggregates a
    | .binary _ a b => do
      expr fuel env aggregates a
      expr fuel env aggregates b
    | .isNull a _ => expr fuel env aggregates a
    | .between a lo hi _ => do
      expr fuel env aggregates a
      expr fuel env aggregates lo
      expr fuel env aggregates hi
    | .inList a items _ => do
      expr fuel env aggregates a
      exprs fuel env aggregates items
    | .inQuery a q _ => do
      expr fuel env aggregates a
      let cols ← query fuel env q
      if cols.size != 1 then
        throw (.logic ("sub-select returns " ++ toString cols.size ++ " columns - expected 1"))
    | .exists q => discard (query fuel env q)
    | .subquery q => do
      let cols ← query fuel env q
      if cols.size != 1 then
        throw (.logic ("sub-select returns " ++ toString cols.size ++ " columns - expected 1"))
    | .pattern _ a p esc _ => do
      expr fuel env aggregates a
      expr fuel env aggregates p
      match esc with
      | some x => expr fuel env aggregates x
      | none => pure ()
    | .caseOf op arms other => do
      match op with
      | some x => expr fuel env aggregates x
      | none => pure ()
      for (c, v) in arms do
        expr fuel env aggregates c
        expr fuel env aggregates v
      match other with
      | some x => expr fuel env aggregates x
      | none => pure ()
    | .cast a _ => expr fuel env aggregates a
    | .call n _ args filter =>
      match SqlFunc.shape n args.length with
      | .unknown => .error (.logic ("no such function: " ++ n))
      | .wrongCount => .error (.logic ("wrong number of arguments to function " ++ n ++ "()"))
      | .aggregate => do
        if !aggregates then throw (.logic ("misuse of aggregate: " ++ n ++ "()"))
        exprs fuel env false args
        match filter with
        | some f => expr fuel env false f
        | none => pure ()
      | .scalar => do
        if filter.isSome then
          throw (.logic ("FILTER may not be used with non-aggregate " ++ n ++ "()"))
        exprs fuel env aggregates args
    | .callAll n filter => do
      if SqlFunc.shape n 0 != .aggregate then
        throw (.logic ("wrong number of arguments to function " ++ n ++ "()"))
      if !aggregates then throw (.logic ("misuse of aggregate: " ++ n ++ "()"))
      match filter with
      | some f => expr fuel env false f
      | none => pure ()
    | .collate a c => do
      discard (collationNamed c)
      expr fuel env aggregates a
    | .vector items => exprs fuel env aggregates items

/-- Check expressions. -/
def exprs : Nat → SqlEnv → Bool → List SqlExpr → Except SqlError Unit
  | 0, _, _, _ => .error (.logic "expression too deep")
  | fuel + 1, env, aggregates, es => es.forM (expr fuel env aggregates)

/-- Check a query, giving its columns. -/
def query : Nat → SqlEnv → SqlQuery → Except SqlError (Array ColumnInfo)
  | 0, _, _ => .error (.logic "query too deep")
  | fuel + 1, env, q =>
    match q with
    | .select _ cols src filter groupBy having => do
      let shape ← match src with
        | some s => source fuel env s
        | none => pure []
      let inner := { env with frames := shape :: env.frames, group := none }
      let named := { inner with aliases := aliasesOf cols ++ env.aliases }
      let mut infos : Array ColumnInfo := #[]
      for (c, i) in cols.zipIdx do
        match c with
        | .all =>
          if src.isNone then throw (.logic "no tables specified")
          infos := infos ++ ((← starOf shape none).map (·.1)).toArray
        | .allOf t =>
          infos := infos ++ ((← starOf shape (some t)).map (·.1)).toArray
        | .expr e a =>
          expr fuel inner true e
          infos := infos.push (resultInfo inner e a i)
      let aggregateQuery := !groupBy.isEmpty || cols.any fun
        | .expr e _ => hasAggregate e
        | _ => false
      match having with
      | some h =>
        if !aggregateQuery then throw (.logic "HAVING clause on a non-aggregate query")
        expr fuel named true h
      | none => pure ()
      match filter with
      | some c => expr fuel named false c
      | none => pure ()
      for g in ← groupTerms shape cols groupBy do
        expr fuel named false g
      pure infos
    | .values rows => do
      let width := (rows.headD []).length
      if rows.any (·.length != width) then
        throw (.logic "all VALUES must have the same number of terms")
      for r in rows do
        exprs fuel env false r
      pure (valuesColumns width)
    | .compound op a b => do
      let ca ← query fuel env a
      let cb ← query fuel env b
      if ca.size != cb.size then
        throw (.logic ("SELECTs to the left and right of " ++ compoundWord op ++
          " do not have the same number of result columns"))
      pure ca
    | .ordered inner terms limit offset => do
      let cols ← query fuel env inner
      let simpleSelect := match inner with
        | .select .. => true
        | _ => false
      for (.mk e _ _, k) in terms.zipIdx do
        match termPosition e with
        | some n =>
          if n < 1 || cols.size < n then throw (termOutOfRange "ORDER" (k + 1) cols.size)
        | none =>
          if (orderColumn cols e).isNone then
            if simpleSelect then
              match inner with
              | .select _ rcols src _ groupBy having => do
                let shape ← match src with
                  | some s => source fuel env s
                  | none => pure []
                let grouped := !groupBy.isEmpty || rcols.any (fun
                    | .expr x _ => hasAggregate x
                    | _ => false) || (having.map hasAggregate).getD false
                expr fuel { env with frames := shape :: env.frames } grouped e
              | _ => pure ()
            else
              throw (.logic (ordinal (k + 1) ++ " ORDER BY term does not match any column in the result set"))
      match limit with
      | some l => expr fuel env false l
      | none => pure ()
      match offset with
      | some o => expr fuel env false o
      | none => pure ()
      pure cols
    | .withTables recursive tables body => do
      let env ← named fuel env recursive tables
      query fuel env body

/-- Check a source, giving the shape of its rows. -/
def source : Nat → SqlEnv → SqlSource → Except SqlError Frame
  | 0, _, _ => .error (.logic "query too deep")
  | fuel + 1, env, s =>
    match s with
    | .table qn aliasName => do
      let bname := aliasName.getD qn.name
      let fromNamed := if qn.schema.isNone then env.named.find? (sameName ·.1 qn.name) else none
      match fromNamed with
      | some (_, rel) => pure [shapeOf bname rel.columns]
      | none =>
        checkSchema qn
        match env.catalog.table? qn.name with
        | some t => pure [Binding.shapeOf t bname]
        | none =>
          if isSchemaTable qn.name then return [shapeOf bname (schemaRelation env.catalog).columns]
          match env.catalog.view? qn.name with
          | some v => do
            let cols ← query fuel { env with frames := [], group := none } v.query
            let cols := if v.columns.isEmpty then cols
              else (v.columns.zip cols.toList).toArray.map fun (n, c) => { c with name := n }
            pure [shapeOf bname cols]
          | none => throw (.logic ("no such table: " ++ qualifiedText qn))
    | .query q aliasName => do
      let cols ← query fuel { env with group := none } q
      pure [shapeOf (aliasName.getD "") cols]
    | .function n _ _ => throw (.logic ("no such table: " ++ n))
    | .join _ natural l r on usingCols => do
      let ls ← source fuel env l
      let rs ← source fuel env r
      if !natural then
        for n in usingCols do
          if !(ls.any fun b => b.columns.any (sameName ·.name n)) ||
              !(rs.any fun b => b.columns.any (sameName ·.name n)) then
            throw (.logic ("cannot join using column " ++ n ++ " - column not present in both tables"))
      match on with
      | some c => expr fuel { env with frames := (ls ++ rs) :: env.frames, group := none } false c
      | none => pure ()
      pure (ls ++ rs)

/-- Check the named subqueries of a `WITH`, giving the scope with their columns. -/
def named : Nat → SqlEnv → Bool → List CommonTable → Except SqlError SqlEnv
  | 0, _, _, _ => .error (.logic "query too deep")
  | fuel + 1, env, _recursive, tables =>
    tables.foldlM (fun env (.mk n cols q) => do
      let first? := match q with
        | .compound _ a _ => some a
        | .ordered (.compound _ a _) _ _ _ => some a
        | _ => none
      let provisional ← if mentions n q then do
          match first? with
          | some first =>
            let c ← query fuel env first
            pure [(n, ← SqlEval.renamed n cols { columns := c, rows := [] })]
          | none => throw (.logic ("circular reference: " ++ n))
        else pure []
      let c ← query fuel { env with named := provisional ++ env.named } q
      let rel ← renamed n cols { columns := c, rows := [] }
      pure { env with named := (n, rel) :: env.named }) env

end

end SqlCheck

end TradeLedger
