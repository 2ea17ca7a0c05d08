import TradeLedger.Sql.Syntax
/-!
# Parsing statements

A recursive-descent parser over the tokens of one statement, reading expressions by precedence,
loosest first. A word is a keyword where the grammar expects one and a name otherwise. The parser
reports the first token it cannot take, and the end of the text inside a statement as incomplete
input. Every parsing function takes fuel, one less per call; a multiple of the token count is
enough for the deepest nesting.

## Main definitions

* `SqlParse.statement`: one statement of a token list.
-/

namespace TradeLedger

namespace SqlParse

/-- The parser's state: the tokens, the position, and the parameters seen, by number, with
their names (none for `?`). -/
structure State where
  toks : Array Lexeme
  pos : Nat := 0
  params : Array (Option String) := #[]
  deriving Inhabited

/-- A parser. -/
abbrev P := StateT State (Except SqlError)

/-- The token at the position. -/
def peek : P (Option Lexeme) := do
  let s ← get
  pure s.toks[s.pos]?

/-- The token `k` places after the position. -/
def peekAt (k : Nat) : P (Option Lexeme) := do
  let s ← get
  pure s.toks[s.pos + k]?

/-- Move past one token. -/
def bump : P Unit := modify fun s => { s with pos := s.pos + 1 }

/-- The report of a stop at a token, or at the end of the text. -/
def errorAt : Option Lexeme → SqlError
  | none => .incomplete
  | some ⟨.illegal, raw⟩ => .unrecognized raw
  | some lx => .unexpected lx.raw

/-- Stop at the current token. -/
def fail {α : Type} : P α := do
  throw (errorAt (← peek))

/-- A word in upper case, ASCII letters only. -/
def upper (s : String) : String := s.map Char.toUpper

/-- Whether a token is the keyword `k`. -/
def isKw (k : String) : Option Lexeme → Bool
  | some ⟨.word w, _⟩ => upper w == k
  | _ => false

/-- Whether a token is the symbol `t`. -/
def isSym (t : String) : Option Lexeme → Bool
  | some ⟨.symbol s, _⟩ => s == t
  | _ => false

/-- Whether the current token is the keyword `k`. -/
def atKw (k : String) : P Bool := do
  pure (isKw k (← peek))

/-- Whether the token `n` places on is the keyword `k`. -/
def atKwAt (n : Nat) (k : String) : P Bool := do
  pure (isKw k (← peekAt n))

/-- Whether the current token is the symbol `t`. -/
def atSym (t : String) : P Bool := do
  pure (isSym t (← peek))

/-- Take the keyword `k`, or stop. -/
def kw (k : String) : P Unit := do
  if ← atKw k then bump else fail

/-- Take the keyword `k` if it is next. -/
def optKw (k : String) : P Bool := do
  if ← atKw k then
    bump
    pure true
  else pure false

/-- The value paired with the first of the keywords that is next, taking that keyword; none
when none of them is next. -/
def oneOf {α : Type} : List (String × α) → P (Option α)
  | [] => pure none
  | (k, a) :: rest => do
    if ← optKw k then pure (some a) else oneOf rest

/-- Take the symbol `t`, or stop. -/
def sym (t : String) : P Unit := do
  if ← atSym t then bump else fail

/-- Take the symbol `t` if it is next. -/
def optSym (t : String) : P Bool := do
  if ← atSym t then
    bump
    pure true
  else pure false

/-- The words that are never names. -/
def reserved : List String :=
  ["ADD", "ALL", "ALTER", "AND", "AS", "AUTOINCREMENT", "BETWEEN", "CASE", "CHECK", "COLLATE",
    "COMMIT", "CONSTRAINT", "CREATE", "DEFAULT", "DEFERRABLE", "DELETE", "DISTINCT", "DROP",
    "ELSE", "ESCAPE", "EXCEPT", "EXISTS", "FOREIGN", "FROM", "GROUP", "HAVING", "IN", "INDEX",
    "INSERT", "INTERSECT", "INTO", "IS", "ISNULL", "JOIN", "LIMIT", "NOT", "NOTHING", "NOTNULL",
    "NULL", "ON", "OR", "ORDER", "PRIMARY", "REFERENCES", "RETURNING", "SELECT", "SET", "TABLE",
    "THEN", "TO", "TRANSACTION", "UNION", "UNIQUE", "UPDATE", "USING", "VALUES", "WHEN", "WHERE"]

/-- The words that join sources; they may be names, but not aliases given without `AS`. -/
def joinWords : List String := ["CROSS", "FULL", "INNER", "LEFT", "NATURAL", "OUTER", "RIGHT"]

/-- The name a token gives where a name may stand: a word that is not reserved, a quoted
name, or a text. -/
def nameOf? : Option Lexeme → Option String
  | some ⟨.word w, _⟩ => if reserved.contains (upper w) then none else some w
  | some ⟨.quoted q _, _⟩ => some q
  | some ⟨.string s, _⟩ => some s
  | _ => none

def name : P String := do
  match nameOf? (← peek) with
  | some n =>
    bump
    pure n
  | none => fail

/-- An alias given without `AS`: a word that neither is reserved nor joins, a quoted name, or
a text. -/
def bareAlias? : Option Lexeme → Option String
  | some ⟨.word w, _⟩ =>
    let u := upper w
    if reserved.contains u || joinWords.contains u || u == "INDEXED" || u == "WINDOW" then none
    else some w
  | some ⟨.quoted q _, _⟩ => some q
  | some ⟨.string s, _⟩ => some s
  | _ => none

/-- An optional alias: `AS name`, or a bare alias. -/
def alias? : P (Option String) := do
  if ← optKw "AS" then pure (some (← name))
  else
    match bareAlias? (← peek) with
    | some a =>
      bump
      pure (some a)
    | none => pure none

/-- A name qualified by a schema: `name` or `schema.name`. -/
def qualified : P QualifiedName := do
  let first ← name
  if ← optSym "." then pure ⟨some first, ← name⟩ else pure ⟨none, first⟩

/-- Names in brackets, separated by commas. -/
def nameList : P (List String) := do
  sym "("
  let mut names := [← name]
  for _ in [0:(← get).toks.size] do
    if ← optSym "," then names := names ++ [← name] else break
  sym ")"
  pure names

/-- The conflict rule after `ON CONFLICT`, if the clause is there. -/
def onConflict : P (Option ConflictRule) := do
  if (← atKw "ON") && (← atKwAt 1 "CONFLICT") then
    bump
    bump
    pure (some (← conflictRule))
  else pure none
where
  /-- One of the five rules. -/
  conflictRule : P ConflictRule := do
    if ← optKw "ROLLBACK" then pure .rollback
    else if ← optKw "ABORT" then pure .abort
    else if ← optKw "FAIL" then pure .fail
    else if ← optKw "IGNORE" then pure .ignore
    else if ← optKw "REPLACE" then pure .replace
    else fail

/-- The number of a parameter token, giving a new number to `?` and to a name not seen yet. -/
def parameterNumber (raw : String) : P Nat := do
  let s ← get
  if raw == "?" then
    set { s with params := s.params.push none }
    pure (s.params.size + 1)
  else if raw.startsWith "?" then
    let n := SqlNumber.digitsValue (raw.toList.drop 1)
    if n == 0 || 32766 < n then
      throw (.logic "variable number must be between ?1 and ?32766")
    let grown := s.params ++ Array.replicate (n - s.params.size) none
    let named := match grown[n - 1]? with
      | some (some _) => grown
      | _ => grown.set! (n - 1) (some raw)
    set { s with params := named }
    pure n
  else
    match s.params.findIdx? (· == some raw) with
    | some i => pure (i + 1)
    | none =>
      set { s with params := s.params.push (some raw) }
      pure (s.params.size + 1)

/-- The value of an integer literal: hex digits as a 64-bit word, decimal digits as an
integer when they fit and as a real otherwise. -/
def integerLiteral (text : String) : Except SqlError SqlValue :=
  let cs := text.toList
  match cs with
  | '0' :: x :: hex =>
    if x == 'x' || x == 'X' then
      let digits := hex.dropWhile (· == '0')
      if 16 < digits.length then .error (.logic ("hex literal too big: " ++ text))
      else
        let v := digits.foldl (fun n c => n * 16 + Lexeme.hexValue c) 0
        .ok (.integer (if v < Nat.pow 2 63 then (v : Int) else (v : Int) - (Nat.pow 2 64 : Nat)))
    else decimal cs
  | _ => decimal cs
where
  /-- A decimal integer literal. -/
  decimal (cs : List Char) : Except SqlError SqlValue :=
    let v := SqlNumber.digitsValue cs
    if v < Nat.pow 2 63 then .ok (.integer v) else .ok (.real (SqlNumber.readReal cs).value)

/-- The words of a type name, with a bracketed size after them, as written. -/
def typeName : P String := do
  let mut words : List String := []
  for _ in [0:(← get).toks.size] do
    let t ← peek
    match t with
    | some ⟨.word w, _⟩ =>
      let u := upper w
      if reserved.contains u || ["GENERATED", "CONSTRAINT"].contains u then break
      bump
      words := words ++ [w]
    | some ⟨.quoted q _, _⟩ =>
      bump
      words := words ++ [q]
    | some ⟨.string q, _⟩ =>
      bump
      words := words ++ [q]
    | _ => break
  if words.isEmpty then return ""
  let mut text := " ".intercalate words
  if ← optSym "(" then
    let mut inner : List String := []
    for _ in [0:(← get).toks.size] do
      match ← peek with
      | some ⟨.symbol ")", _⟩ => break
      | some ⟨.illegal, _⟩ => fail
      | some lx =>
        bump
        inner := inner ++ [lx.raw]
      | none => fail
    sym ")"
    text := text ++ "(" ++ "".intercalate inner ++ ")"
  pure text

/-- The text of a clock keyword, if the word is one. -/
def clockWord (w : String) : Option String :=
  let u := upper w
  if u == "CURRENT_TIME" || u == "CURRENT_DATE" || u == "CURRENT_TIMESTAMP" then some u else none

def startsQuery (t : Option Lexeme) : Bool :=
  isKw "SELECT" t || isKw "VALUES" t || isKw "WITH" t

mutual

/-- An expression. -/
def expr : Nat → P SqlExpr
  | 0 => fail
  | fuel + 1 => orExpr fuel

/-- Operands joined by `OR`. -/
def orExpr : Nat → P SqlExpr
  | 0 => fail
  | fuel + 1 => do
    let mut e ← andExpr fuel
    for _ in [0:(← get).toks.size] do
      if ← optKw "OR" then e := .binary .or e (← andExpr fuel) else break
    pure e

/-- Operands joined by `AND`. -/
def andExpr : Nat → P SqlExpr
  | 0 => fail
  | fuel + 1 => do
    let mut e ← notExpr fuel
    for _ in [0:(← get).toks.size] do
      if ← optKw "AND" then e := .binary .and e (← notExpr fuel) else break
    pure e

/-- A negation, or an equality-level expression. -/
def notExpr : Nat → P SqlExpr
  | 0 => fail
  | fuel + 1 => do
    if ← optKw "NOT" then pure (.unary .not (← notExpr fuel)) else equality fuel

/-- Equality, `IS`, membership, patterns, ranges and null tests, left to right. -/
def equality : Nat → P SqlExpr
  | 0 => fail
  | fuel + 1 => do
    let mut e ← comparison fuel
    for _ in [0:(← get).toks.size] do
      let t ← peek
      if isSym "=" t || isSym "==" t then
        bump
        e := .binary .eq e (← comparison fuel)
      else if isSym "!=" t || isSym "<>" t then
        bump
        e := .binary .ne e (← comparison fuel)
      else if isKw "IS" t then
        bump
        let negated ← optKw "NOT"
        if ← optKw "DISTINCT" then
          kw "FROM"
          e := .binary (if negated then .is else .isNot) e (← comparison fuel)
        else e := .binary (if negated then .isNot else .is) e (← comparison fuel)
      else if isKw "ISNULL" t then
        bump
        e := .isNull e false
      else if isKw "NOTNULL" t then
        bump
        e := .isNull e true
      else if isKw "NOT" t && isKw "NULL" (← peekAt 1) then
        bump
        bump
        e := .isNull e true
      else
        let negated := isKw "NOT" t
        let t ← if negated then peekAt 1 else pure t
        if isKw "IN" t then
          if negated then bump
          bump
          e ← membership fuel e negated
        else if isKw "BETWEEN" t then
          if negated then bump
          bump
          let lo ← comparison fuel
          kw "AND"
          let hi ← comparison fuel
          e := .between e lo hi negated
        else
          let op? : Option PatternOp :=
            if isKw "LIKE" t then some .like else if isKw "GLOB" t then some .glob
            else if isKw "REGEXP" t then some .regexp else if isKw "MATCH" t then some .match
            else none
          match op? with
          | some op =>
            if negated then bump
            bump
            let pat ← comparison fuel
            let escape ← if ← optKw "ESCAPE" then pure (some (← comparison fuel)) else pure none
            e := .pattern op e pat escape negated
          | none => break
    pure e

/-- The right side of `IN`: a bracketed query or list, or a table. -/
def membership : Nat → SqlExpr → Bool → P SqlExpr
  | 0, _, _ => fail
  | fuel + 1, e, negated => do
    if ← optSym "(" then
      if startsQuery (← peek) then
        let q ← query fuel
        sym ")"
        pure (.inQuery e q negated)
      else if ← optSym ")" then pure (.inList e [] negated)
      else
        let items ← exprList fuel
        sym ")"
        pure (.inList e items negated)
    else
      let n ← qualified
      let q := SqlQuery.select false [.all] (some (.table n none)) none [] none
      pure (.inQuery e q negated)

/-- Orderings: `<`, `<=`, `>`, `>=`. -/
def comparison : Nat → P SqlExpr
  | 0 => fail
  | fuel + 1 => do
    let mut e ← bitwise fuel
    for _ in [0:(← get).toks.size] do
      let t ← peek
      let op? : Option BinaryOp :=
        if isSym "<" t then some .lt else if isSym "<=" t then some .le
        else if isSym ">" t then some .gt else if isSym ">=" t then some .ge else none
      match op? with
      | some op =>
        bump
        e := .binary op e (← bitwise fuel)
      | none => break
    pure e

/-- Bit operators: `&`, `|`, `<<`, `>>`. -/
def bitwise : Nat → P SqlExpr
  | 0 => fail
  | fuel + 1 => do
    let mut e ← additive fuel
    for _ in [0:(← get).toks.size] do
      let t ← peek
      let op? : Option BinaryOp :=
        if isSym "&" t then some .bitAnd else if isSym "|" t then some .bitOr
        else if isSym "<<" t then some .shiftLeft else if isSym ">>" t then some .shiftRight
        else none
      match op? with
      | some op =>
        bump
        e := .binary op e (← additive fuel)
      | none => break
    pure e

/-- Sums and differences. -/
def additive : Nat → P SqlExpr
  | 0 => fail
  | fuel + 1 => do
    let mut e ← multiplicative fuel
    for _ in [0:(← get).toks.size] do
      let t ← peek
      if isSym "+" t then
        bump
        e := .binary (.arith .add) e (← multiplicative fuel)
      else if isSym "-" t then
        bump
        e := .binary (.arith .sub) e (← multiplicative fuel)
      else break
    pure e

/-- Products, quotients and remainders. -/
def multiplicative : Nat → P SqlExpr
  | 0 => fail
  | fuel + 1 => do
    let mut e ← concatenation fuel
    for _ in [0:(← get).toks.size] do
      let t ← peek
      let op? : Option SqlValue.ArithOp :=
        if isSym "*" t then some .mul else if isSym "/" t then some .div
        else if isSym "%" t then some .rem else none
      match op? with
      | some op =>
        bump
        e := .binary (.arith op) e (← concatenation fuel)
      | none => break
    pure e

/-- Concatenation and extraction. -/
def concatenation : Nat → P SqlExpr
  | 0 => fail
  | fuel + 1 => do
    let mut e ← collation fuel
    for _ in [0:(← get).toks.size] do
      let t ← peek
      if isSym "||" t then
        bump
        e := .binary .concat e (← collation fuel)
      else if isSym "->" t then
        bump
        e := .binary (.extract false) e (← collation fuel)
      else if isSym "->>" t then
        bump
        e := .binary (.extract true) e (← collation fuel)
      else break
    pure e

/-- An operand with collations after it. -/
def collation : Nat → P SqlExpr
  | 0 => fail
  | fuel + 1 => do
    let mut e ← unary fuel
    for _ in [0:(← get).toks.size] do
      if ← optKw "COLLATE" then e := .collate e (← name) else break
    pure e

/-- Prefix signs, and `NOT` where an operand stands. -/
def unary : Nat → P SqlExpr
  | 0 => fail
  | fuel + 1 => do
    let t ← peek
    if isSym "-" t then
      bump
      match ← peek with
      | some ⟨.integer text, _⟩ =>
        if text == "9223372036854775808" then
          bump
          pure (.value (.integer SqlNumber.int64Min))
        else pure (.unary .negate (← unary fuel))
      | _ => pure (.unary .negate (← unary fuel))
    else if isSym "+" t then
      bump
      pure (.unary .plus (← unary fuel))
    else if isSym "~" t then
      bump
      pure (.unary .bitNot (← unary fuel))
    else if isKw "NOT" t then
      bump
      pure (.unary .not (← notExpr fuel))
    else primary fuel

/-- A literal, parameter, column, call, bracketed expression, subquery, `CASE`, `CAST` or
`EXISTS`. -/
def primary : Nat → P SqlExpr
  | 0 => fail
  | fuel + 1 => do
    let t ← peek
    match t with
    | some ⟨.integer text, _⟩ =>
      bump
      match integerLiteral text with
      | .ok v => pure (.value v)
      | .error err => throw err
    | some ⟨.real text, _⟩ =>
      bump
      pure (.value (.real (SqlNumber.readReal text.toList).value))
    | some ⟨.string s, _⟩ =>
      bump
      pure (.value (.text s))
    | some ⟨.blob bs, _⟩ =>
      bump
      pure (.value (.blob bs))
    | some ⟨.parameter raw, _⟩ =>
      bump
      if raw.startsWith "#" && (raw.toList.drop 1).head?.any Char.isDigit then
        throw (.unexpected raw)
      pure (.parameter (← parameterNumber raw))
    | some ⟨.symbol "(", _⟩ =>
      bump
      if startsQuery (← peek) then
        let q ← query fuel
        sym ")"
        pure (.subquery q)
      else
        let items ← exprList fuel
        sym ")"
        match items with
        | [e] => pure e
        | es => pure (.vector es)
    | some ⟨.word w, _⟩ =>
      let u := upper w
      if u == "NULL" then
        bump
        pure (.value .null)
      else if u == "CASE" then
        bump
        caseExpr fuel
      else if u == "EXISTS" then
        bump
        sym "("
        let q ← query fuel
        sym ")"
        pure (.exists q)
      else if u == "CAST" && isSym "(" (← peekAt 1) then
        bump
        bump
        let e ← expr fuel
        kw "AS"
        let ty ← typeName
        sym ")"
        pure (.cast e ty)
      else if u == "RAISE" && isSym "(" (← peekAt 1) then fail
      else match clockWord w with
        | some k =>
          bump
          pure (.clock k)
        | none =>
          if reserved.contains u then fail
          else
            bump
            named fuel w false
    | some ⟨.quoted q dq, _⟩ =>
      bump
      named fuel q dq
    | _ => fail

/-- What follows a name in an expression: a call, a qualified column, or the column. -/
def named : Nat → String → Bool → P SqlExpr
  | 0, _, _ => fail
  | fuel + 1, n, doubleQuoted => do
    if ← optSym "(" then call fuel n
    else if ← optSym "." then
      let second ← name
      if ← optSym "." then
        let third ← name
        pure (.column (some second) third false)
      else pure (.column (some n) second false)
    else pure (.column none n doubleQuoted)

/-- The arguments of a call after its opening bracket, and the filter after it. -/
def call : Nat → String → P SqlExpr
  | 0, _ => fail
  | fuel + 1, n => do
    let mut e := SqlExpr.callAll n none
    if ← optSym "*" then sym ")"
    else if ← optSym ")" then e := .call n false [] none
    else
      let distinct ← optKw "DISTINCT"
      if !distinct then discard (optKw "ALL")
      let args ← exprList fuel
      if ← atKw "ORDER" then fail
      sym ")"
      e := .call n distinct args none
    if (← atKw "FILTER") && isSym "(" (← peekAt 1) then
      bump
      bump
      kw "WHERE"
      let f ← expr fuel
      sym ")"
      match e with
      | .callAll n _ => pure (.callAll n (some f))
      | .call n d args _ => pure (.call n d args (some f))
      | other => pure other
    else if ← atKw "OVER" then fail
    else pure e

/-- A `CASE` expression after its keyword. -/
def caseExpr : Nat → P SqlExpr
  | 0 => fail
  | fuel + 1 => do
    let operand ← if ← atKw "WHEN" then pure none else pure (some (← expr fuel))
    let mut arms : List (SqlExpr × SqlExpr) := []
    for _ in [0:(← get).toks.size] do
      if ← optKw "WHEN" then
        let c ← expr fuel
        kw "THEN"
        arms := arms ++ [(c, ← expr fuel)]
      else break
    if arms.isEmpty then fail
    let otherwise ← if ← optKw "ELSE" then pure (some (← expr fuel)) else pure none
    kw "END"
    pure (.caseOf operand arms otherwise)

/-- Expressions separated by commas. -/
def exprList : Nat → P (List SqlExpr)
  | 0 => fail
  | fuel + 1 => do
    let mut es := [← expr fuel]
    for _ in [0:(← get).toks.size] do
      if ← optSym "," then es := es ++ [← expr fuel] else break
    pure es

/-- A query, with named subqueries before it. -/
def query : Nat → P SqlQuery
  | 0 => fail
  | fuel + 1 => do
    if ← optKw "WITH" then
      let recursive ← optKw "RECURSIVE"
      let tables ← commonTables fuel
      pure (.withTables recursive tables (← compound fuel))
    else compound fuel

/-- Named subqueries separated by commas. -/
def commonTables : Nat → P (List CommonTable)
  | 0 => fail
  | fuel + 1 => do
    let mut tables : List CommonTable := []
    for _ in [0:(← get).toks.size] do
      let n ← name
      let cols ← if ← atSym "(" then nameList else pure []
      kw "AS"
      if ← optKw "NOT" then kw "MATERIALIZED" else discard (optKw "MATERIALIZED")
      sym "("
      let q ← query fuel
      sym ")"
      tables := tables ++ [.mk n cols q]
      if !(← optSym ",") then break
    pure tables

/-- Simple queries combined, then sorted and cut. -/
def compound : Nat → P SqlQuery
  | 0 => fail
  | fuel + 1 => do
    let mut q ← simple fuel
    for _ in [0:(← get).toks.size] do
      if ← optKw "UNION" then
        let all ← optKw "ALL"
        q := .compound (if all then .unionAll else .union) q (← simple fuel)
      else if ← optKw "INTERSECT" then q := .compound .intersect q (← simple fuel)
      else if ← optKw "EXCEPT" then q := .compound .except q (← simple fuel)
      else break
    let orderBy ← if (← atKw "ORDER") then
        bump
        kw "BY"
        orderTerms fuel
      else pure []
    if ← optKw "LIMIT" then
      let first ← expr fuel
      if ← optKw "OFFSET" then pure (.ordered q orderBy (some first) (some (← expr fuel)))
      else if ← optSym "," then pure (.ordered q orderBy (some (← expr fuel)) (some first))
      else pure (.ordered q orderBy (some first) none)
    else if orderBy.isEmpty then pure q
    else pure (.ordered q orderBy none none)

/-- Sort terms separated by commas. -/
def orderTerms : Nat → P (List OrderTerm)
  | 0 => fail
  | fuel + 1 => do
    let mut terms : List OrderTerm := []
    for _ in [0:(← get).toks.size] do
      let e ← expr fuel
      let descending ← if ← optKw "DESC" then pure true else
        discard (optKw "ASC")
        pure false
      let nullsFirst ← if ← optKw "NULLS" then
          if ← optKw "FIRST" then pure (some true) else
            kw "LAST"
            pure (some false)
        else pure none
      terms := terms ++ [.mk e descending nullsFirst]
      if !(← optSym ",") then break
    pure terms

/-- A select or a list of rows. -/
def simple : Nat → P SqlQuery
  | 0 => fail
  | fuel + 1 => do
    if ← optKw "VALUES" then
      let mut rows : List (List SqlExpr) := []
      for _ in [0:(← get).toks.size] do
        sym "("
        let row ← exprList fuel
        sym ")"
        rows := rows ++ [row]
        if !(← optSym ",") then break
      pure (.values rows)
    else
      kw "SELECT"
      let distinct ← optKw "DISTINCT"
      if !distinct then discard (optKw "ALL")
      let columns ← resultColumns fuel
      let source ← if ← optKw "FROM" then pure (some (← source fuel)) else pure none
      let filter ← if ← optKw "WHERE" then pure (some (← expr fuel)) else pure none
      let groupBy ← if (← atKw "GROUP") then
          bump
          kw "BY"
          exprList fuel
        else pure []
      let having ← if ← optKw "HAVING" then pure (some (← expr fuel)) else pure none
      if ← atKw "WINDOW" then fail
      pure (.select distinct columns source filter groupBy having)

def resultColumns : Nat → P (List ResultColumn)
  | 0 => fail
  | fuel + 1 => do
    let mut cols : List ResultColumn := []
    for _ in [0:(← get).toks.size] do
      if ← optSym "*" then cols := cols ++ [.all]
      else
        let t0 ← peek
        let t1 ← peekAt 1
        let t2 ← peekAt 2
        match nameOf? t0 with
        | some n =>
          if isSym "." t1 && isSym "*" t2 then
            bump
            bump
            bump
            cols := cols ++ [.allOf n]
          else
            let e ← expr fuel
            cols := cols ++ [.expr e (← alias?)]
        | none =>
          let e ← expr fuel
          cols := cols ++ [.expr e (← alias?)]
      if !(← optSym ",") then break
    pure cols

/-- Sources joined by commas and joins. -/
def source : Nat → P SqlSource
  | 0 => fail
  | fuel + 1 => do
    let mut s ← sourceItem fuel
    for _ in [0:(← get).toks.size] do
      match ← joinOperator with
      | none => break
      | some (kind, natural) =>
        let right ← sourceItem fuel
        let mut on := none
        let mut usingColumns := []
        if ← optKw "ON" then on := some (← expr fuel)
        else if ← optKw "USING" then usingColumns ← nameList
        s := .join kind natural s right on usingColumns
    pure s

/-- One source: a table, a table function, a subquery, or bracketed sources. -/
def sourceItem : Nat → P SqlSource
  | 0 => fail
  | fuel + 1 => do
    if ← optSym "(" then
      if startsQuery (← peek) then
        let q ← query fuel
        sym ")"
        pure (.query q (← alias?))
      else
        let s ← source fuel
        sym ")"
        match ← alias? with
        | some a => pure (.query (.select false [.all] (some s) none [] none) (some a))
        | none => pure s
    else
      let n ← qualified
      if ← optSym "(" then
        let args ← if ← atSym ")" then pure [] else exprList fuel
        sym ")"
        pure (.function n.name args (← alias?))
      else
        let a ← alias?
        if ← optKw "INDEXED" then
          kw "BY"
          discard name
        else if (← atKw "NOT") && (← atKwAt 1 "INDEXED") then
          bump
          bump
        pure (.table n a)

/-- A join operator, if one is next: the kind of join and whether it is natural. A comma is
a cross join. -/
def joinOperator : P (Option (JoinKind × Bool)) := do
  if ← optSym "," then return some (.inner, false)
  let natural ← optKw "NATURAL"
  let kind? ← oneOf [("LEFT", JoinKind.left), ("RIGHT", .right), ("FULL", .full),
    ("INNER", .inner), ("CROSS", .cross)]
  match kind? with
  | some k =>
    if k == .left || k == .right || k == .full then discard (optKw "OUTER")
    kw "JOIN"
    pure (some (k, natural))
  | none =>
    if ← optKw "JOIN" then pure (some (.inner, natural))
    else if natural then fail
    else pure none

end

/-- Assignments of an update: `column = value` or `(columns) = value`. -/
def assignments (fuel : Nat) : P (List Assignment) := do
  let mut sets : List Assignment := []
  for _ in [0:(← get).toks.size] do
    let cols ← if ← atSym "(" then nameList else pure [← name]
    sym "="
    sets := sets ++ [⟨cols, ← expr fuel⟩]
    if !(← optSym ",") then break
  pure sets

/-- The columns of a conflict target or index: names or expressions with an optional
collation and order. -/
def indexedColumns (fuel : Nat) : P (List IndexedColumn) := do
  sym "("
  let mut cols : List IndexedColumn := []
  for _ in [0:(← get).toks.size] do
    let e ← expr fuel
    let (e, coll) := match e with
      | .collate inner c => (inner, some c)
      | other => (other, none)
    if !(← optKw "ASC") then discard (optKw "DESC")
    cols := cols ++ [⟨e, coll⟩]
    if !(← optSym ",") then break
  sym ")"
  pure cols

/-- The names of indexed columns that are plain columns. -/
def plainColumns (cols : List IndexedColumn) : P (List String) :=
  cols.mapM fun c => match c.expr with
    | .column none n _ => pure n
    | _ => fail

/-- Upsert clauses after an insert's rows. -/
def upserts (fuel : Nat) : P (List Upsert) := do
  let mut clauses : List Upsert := []
  for _ in [0:(← get).toks.size] do
    if (← atKw "ON") && (← atKwAt 1 "CONFLICT") then
      bump
      bump
      let target ← if ← atSym "(" then
          let cols ← plainColumns (← indexedColumns fuel)
          let cond ← if ← optKw "WHERE" then pure (some (← expr fuel)) else pure none
          pure (some (cols, cond))
        else pure none
      kw "DO"
      if ← optKw "NOTHING" then clauses := clauses ++ [⟨target, .nothing⟩]
      else
        kw "UPDATE"
        kw "SET"
        let sets ← assignments fuel
        let cond ← if ← optKw "WHERE" then pure (some (← expr fuel)) else pure none
        clauses := clauses ++ [⟨target, .update sets cond⟩]
    else break
  pure clauses

/-- A `RETURNING` clause, if there is one. -/
def returning (fuel : Nat) : P (List ResultColumn) := do
  if ← optKw "RETURNING" then resultColumns fuel else pure []

/-- An insert after `INSERT` or `REPLACE`. -/
def insertRest (fuel : Nat) (rule : Option ConflictRule) : P SqlStatement := do
  kw "INTO"
  let table ← qualified
  let aliasName ← if ← optKw "AS" then pure (some (← name)) else pure none
  let columns ← if ← atSym "(" then pure (some (← nameList)) else pure none
  if ← optKw "DEFAULT" then
    kw "VALUES"
    let ret ← returning fuel
    pure (.insert rule table aliasName columns .defaults [] ret)
  else
    let q ← query fuel
    let ups ← upserts fuel
    let ret ← returning fuel
    pure (.insert rule table aliasName columns (.query q) ups ret)

def updateRest (fuel : Nat) : P SqlStatement := do
  let rule ← if ← optKw "OR" then some <$> onConflict.conflictRule else pure none
  let table ← qualified
  let aliasName ← if ← optKw "AS" then pure (some (← name)) else pure none
  if ← optKw "INDEXED" then
    kw "BY"
    discard name
  else if (← atKw "NOT") && (← atKwAt 1 "INDEXED") then
    bump
    bump
  kw "SET"
  let sets ← assignments fuel
  let src ← if ← optKw "FROM" then pure (some (← source fuel)) else pure none
  let filter ← if ← optKw "WHERE" then pure (some (← expr fuel)) else pure none
  let ret ← returning fuel
  pure (.update rule table aliasName sets src filter ret)

def deleteRest (fuel : Nat) : P SqlStatement := do
  kw "FROM"
  let table ← qualified
  let aliasName ← if ← optKw "AS" then pure (some (← name)) else pure none
  if ← optKw "INDEXED" then
    kw "BY"
    discard name
  else if (← atKw "NOT") && (← atKwAt 1 "INDEXED") then
    bump
    bump
  let filter ← if ← optKw "WHERE" then pure (some (← expr fuel)) else pure none
  let ret ← returning fuel
  pure (.delete table aliasName filter ret)

/-- Skip a bracketed run of tokens after its opening bracket, nested brackets included. -/
def skipBracketed : P Unit := do
  let mut depth := 1
  for _ in [0:(← get).toks.size] do
    match ← peek with
    | none => fail
    | some ⟨.illegal, _⟩ => fail
    | some ⟨.symbol "(", _⟩ =>
      bump
      depth := depth + 1
    | some ⟨.symbol ")", _⟩ =>
      bump
      depth := depth - 1
      if depth == 0 then break
    | some _ => bump
  if depth != 0 then fail

/-- The actions and deferral of a foreign key after its referenced table. -/
def referenceTail : P Unit := do
  if ← atSym "(" then discard nameList
  for _ in [0:(← get).toks.size] do
    if ← optKw "ON" then
      if !(← optKw "DELETE") then kw "UPDATE"
      if ← optKw "SET" then
        if !(← optKw "NULL") then kw "DEFAULT"
      else if ← optKw "CASCADE" then pure ()
      else if ← optKw "RESTRICT" then pure ()
      else
        kw "NO"
        kw "ACTION"
    else if ← optKw "MATCH" then discard name
    else if (← atKw "NOT") && (← atKwAt 1 "DEFERRABLE") then
      bump
      bump
      deferral
    else if ← optKw "DEFERRABLE" then deferral
    else break
where
  /-- `INITIALLY DEFERRED` or `INITIALLY IMMEDIATE`, if said. -/
  deferral : P Unit := do
    if ← optKw "INITIALLY" then
      if !(← optKw "DEFERRED") then kw "IMMEDIATE"

/-- The value of a column's `DEFAULT`. -/
def defaultValue (fuel : Nat) : P SqlExpr := do
  if ← optSym "(" then
    let e ← expr fuel
    sym ")"
    pure e
  else
    let negative ← if ← optSym "-" then pure true else
      discard (optSym "+")
      pure false
    let t ← peek
    let v ← match t with
      | some ⟨.integer _, _⟩ => primary fuel
      | some ⟨.real _, _⟩ => primary fuel
      | some ⟨.string _, _⟩ => primary fuel
      | some ⟨.blob _, _⟩ => primary fuel
      | some ⟨.word w, _⟩ =>
        if upper w == "NULL" then
          bump
          pure (.value .null)
        else match clockWord w with
          | some k =>
            bump
            pure (.clock k)
          | none =>
            if reserved.contains (upper w) then fail
            else
              bump
              if upper w == "TRUE" then pure (.value (.integer 1))
              else if upper w == "FALSE" then pure (.value (.integer 0))
              else pure (.value (.text w))
      | some ⟨.quoted q _, _⟩ =>
        bump
        pure (.value (.text q))
      | _ => fail
    pure (if negative then .unary .negate v else v)

/-- A column definition: its name, type and constraints. -/
def columnSpec (fuel : Nat) : P ColumnSpec := do
  let n ← name
  let declared ← typeName
  let mut c : ColumnSpec := { name := n, declared }
  for _ in [0:(← get).toks.size] do
    if ← optKw "CONSTRAINT" then discard name
    else if ← optKw "DEFAULT" then c := { c with default := some (← defaultValue fuel) }
    else if ← optKw "NULL" then discard onConflict
    else if (← atKw "NOT") && (← atKwAt 1 "NULL") then
      bump
      bump
      c := { c with notNull := some ((← onConflict).getD .abort) }
    else if ← optKw "PRIMARY" then
      kw "KEY"
      let descending ← if ← optKw "DESC" then pure true else
        discard (optKw "ASC")
        pure false
      let rule := (← onConflict).getD .abort
      let auto ← optKw "AUTOINCREMENT"
      c := { c with primaryKey := some rule, descending, autoIncrement := auto }
    else if ← optKw "UNIQUE" then c := { c with unique := some ((← onConflict).getD .abort) }
    else if ← optKw "CHECK" then
      sym "("
      let e ← expr fuel
      sym ")"
      c := { c with checks := c.checks ++ [e] }
    else if ← optKw "REFERENCES" then
      discard name
      referenceTail
    else if ← optKw "COLLATE" then c := { c with collation := some (← name) }
    else if (← atKw "GENERATED") || (← atKw "AS") then
      if ← optKw "GENERATED" then kw "ALWAYS"
      kw "AS"
      sym "("
      let e ← expr fuel
      sym ")"
      if !(← optKw "STORED") then discard (optKw "VIRTUAL")
      c := { c with generated := some e }
    else if (← atKw "NOT") && (← atKwAt 1 "DEFERRABLE") then
      bump
      bump
      referenceTail.deferral
    else if ← optKw "DEFERRABLE" then referenceTail.deferral
    else break
  pure c

/-- A table's columns and constraints, after the opening bracket. -/
def tableSpec (fuel : Nat) : P TableSpec := do
  let mut spec : TableSpec := { columns := [] }
  let mut inConstraints := false
  for _ in [0:(← get).toks.size] do
    let t ← peek
    let startsConstraint := isKw "CONSTRAINT" t || isKw "PRIMARY" t || isKw "UNIQUE" t ||
      isKw "CHECK" t || isKw "FOREIGN" t
    if startsConstraint then inConstraints := true
    if inConstraints then
      if ← optKw "CONSTRAINT" then discard name
      if ← optKw "PRIMARY" then
        kw "KEY"
        let cols ← plainColumns (← indexedColumns fuel)
        discard (optKw "AUTOINCREMENT")
        spec := { spec with primaryKey := some (cols, (← onConflict).getD .abort) }
        if spec.columns.any (·.primaryKey.isSome) then
          throw (.logic "table has more than one primary key")
      else if ← optKw "UNIQUE" then
        let cols ← plainColumns (← indexedColumns fuel)
        spec := { spec with uniques := spec.uniques ++ [(cols, (← onConflict).getD .abort)] }
      else if ← optKw "CHECK" then
        sym "("
        let e ← expr fuel
        sym ")"
        discard onConflict
        spec := { spec with checks := spec.checks ++ [e] }
      else if ← optKw "FOREIGN" then
        kw "KEY"
        discard nameList
        kw "REFERENCES"
        discard name
        referenceTail
      else fail
      if ← optSym ")" then break
      discard (optSym ",")
    else
      spec := { spec with columns := spec.columns ++ [← columnSpec fuel] }
      if ← optSym ")" then break
      sym ","
  for _ in [0:(← get).toks.size] do
    if ← optKw "WITHOUT" then
      let n ← name
      if upper n != "ROWID" then throw (.logic ("unknown table option: " ++ n))
      spec := { spec with withoutRowid := true }
    else if ← optKw "STRICT" then spec := { spec with strict := true }
    else break
    if !(← optSym ",") then break
  pure spec

def ifNotExists : P Bool := do
  if (← atKw "IF") && (← atKwAt 1 "NOT") then
    bump
    bump
    kw "EXISTS"
    pure true
  else pure false

def ifExists : P Bool := do
  if (← atKw "IF") && (← atKwAt 1 "EXISTS") then
    bump
    bump
    pure true
  else pure false

/-- What a statement of a trigger body is; only whether it parses matters here. -/
def triggerStatement (fuel : Nat) : P Unit := do
  let t ← peek
  if isKw "INSERT" t then
    bump
    let rule ← if ← optKw "OR" then some <$> onConflict.conflictRule else pure none
    discard (insertRest fuel rule)
  else if isKw "REPLACE" t then
    bump
    discard (insertRest fuel (some .replace))
  else if isKw "UPDATE" t then
    bump
    discard (updateRest fuel)
  else if isKw "DELETE" t then
    bump
    discard (deleteRest fuel)
  else discard (query fuel)

/-- A `CREATE` statement after its keyword. -/
def createRest (fuel : Nat) : P SqlStatement := do
  let temporary ← if ← optKw "TEMP" then pure true else optKw "TEMPORARY"
  if ← optKw "TABLE" then
    let ine ← ifNotExists
    let n ← qualified
    if ← optKw "AS" then pure (.createTable temporary ine n (.query (← query fuel)))
    else
      sym "("
      pure (.createTable temporary ine n (.spec (← tableSpec fuel)))
  else if ← optKw "VIEW" then
    let ine ← ifNotExists
    let n ← qualified
    let cols ← if ← atSym "(" then nameList else pure []
    kw "AS"
    pure (.createView temporary ine n cols (← query fuel))
  else if ← optKw "TRIGGER" then
    let ine ← ifNotExists
    let n ← qualified
    if ← optKw "BEFORE" then pure ()
    else if ← optKw "AFTER" then pure ()
    else if ← optKw "INSTEAD" then kw "OF"
    let event ← match ← oneOf [("INSERT", TriggerEvent.insert), ("DELETE", .delete)] with
      | some ev => pure ev
      | none =>
        kw "UPDATE"
        if ← optKw "OF" then
          let mut cols := [← name]
          for _ in [0:(← get).toks.size] do
            if ← optSym "," then cols := cols ++ [← name] else break
          pure (TriggerEvent.update cols)
        else pure (TriggerEvent.update [])
    kw "ON"
    let table ← qualified
    if ← optKw "FOR" then
      kw "EACH"
      kw "ROW"
    if ← optKw "WHEN" then discard (expr fuel)
    kw "BEGIN"
    for _ in [0:(← get).toks.size] do
      triggerStatement fuel
      sym ";"
      if ← optKw "END" then break
    pure (.createTrigger ine n table.name event)
  else if ← optKw "VIRTUAL" then
    kw "TABLE"
    discard ifNotExists
    let n ← qualified
    kw "USING"
    let m ← name
    if ← optSym "(" then skipBracketed
    pure (.createVirtual n m)
  else
    let unique ← optKw "UNIQUE"
    kw "INDEX"
    let ine ← ifNotExists
    let n ← qualified
    kw "ON"
    let table ← name
    let cols ← indexedColumns fuel
    let filter ← if ← optKw "WHERE" then pure (some (← expr fuel)) else pure none
    pure (.createIndex unique ine n table cols filter)

/-- A `DROP` statement after its keyword. -/
def dropRest : P SqlStatement := do
  let kind ← match ← oneOf [("TABLE", ObjectKind.table), ("INDEX", .index), ("VIEW", .view)] with
    | some k => pure k
    | none => do
      kw "TRIGGER"
      pure ObjectKind.trigger
  let ie ← ifExists
  pure (.drop kind ie (← qualified))

/-- An `ALTER TABLE` statement after its keywords. -/
def alterRest (fuel : Nat) : P SqlStatement := do
  let table ← qualified
  if ← optKw "RENAME" then
    if ← optKw "TO" then pure (.renameTable table (← name))
    else
      discard (optKw "COLUMN")
      let old ← name
      kw "TO"
      pure (.renameColumn table old (← name))
  else if ← optKw "ADD" then
    discard (optKw "COLUMN")
    pure (.addColumn table (← columnSpec fuel))
  else
    kw "DROP"
    discard (optKw "COLUMN")
    pure (.dropColumn table (← name))

/-- A pragma's value: a signed number, a name, a text, or a keyword. -/
def pragmaValue : P SqlExpr := do
  let negative ← if ← optSym "-" then pure true else
    discard (optSym "+")
    pure false
  match ← peek with
  | some ⟨.integer text, _⟩ =>
    bump
    match integerLiteral text with
    | .ok v => pure (if negative then .unary .negate (.value v) else .value v)
    | .error e => throw e
  | some ⟨.real text, _⟩ =>
    bump
    let v := SqlValue.real (SqlNumber.readReal text.toList).value
    pure (if negative then .unary .negate (.value v) else .value v)
  | some ⟨.word w, _⟩ =>
    if negative then fail
    let u := upper w
    if u == "ON" || u == "DELETE" || u == "DEFAULT" || !reserved.contains u then
      bump
      pure (.value (.text w))
    else fail
  | some ⟨.quoted q _, _⟩ =>
    if negative then fail
    bump
    pure (.value (.text q))
  | some ⟨.string s, _⟩ =>
    if negative then fail
    bump
    pure (.value (.text s))
  | _ => fail

/-- A statement, without `EXPLAIN`. -/
def plainStatement (fuel : Nat) : P SqlStatement := do
  let t ← peek
  if isKw "SELECT" t || isKw "VALUES" t then pure (.query (← query fuel))
  else if isKw "WITH" t then
    bump
    let recursive ← optKw "RECURSIVE"
    let tables ← commonTables fuel
    let t ← peek
    if isKw "SELECT" t || isKw "VALUES" t then
      pure (.query (.withTables recursive tables (← compound fuel)))
    else if isKw "INSERT" t then
      bump
      let rule ← if ← optKw "OR" then some <$> onConflict.conflictRule else pure none
      pure (.withTables recursive tables (← insertRest fuel rule))
    else if isKw "REPLACE" t then
      bump
      pure (.withTables recursive tables (← insertRest fuel (some .replace)))
    else if isKw "UPDATE" t then
      bump
      pure (.withTables recursive tables (← updateRest fuel))
    else if isKw "DELETE" t then
      bump
      pure (.withTables recursive tables (← deleteRest fuel))
    else fail
  else if isKw "INSERT" t then
    bump
    let rule ← if ← optKw "OR" then some <$> onConflict.conflictRule else pure none
    insertRest fuel rule
  else if isKw "REPLACE" t then
    bump
    insertRest fuel (some .replace)
  else if isKw "UPDATE" t then
    bump
    updateRest fuel
  else if isKw "DELETE" t then
    bump
    deleteRest fuel
  else if isKw "CREATE" t then
    bump
    createRest fuel
  else if isKw "DROP" t then
    bump
    dropRest
  else if isKw "ALTER" t then
    bump
    kw "TABLE"
    alterRest fuel
  else if isKw "BEGIN" t then
    bump
    if ← optKw "DEFERRED" then pure ()
    else if ← optKw "IMMEDIATE" then pure ()
    else discard (optKw "EXCLUSIVE")
    if ← optKw "TRANSACTION" then discard (nameOf? <$> peek)
    pure .begin
  else if isKw "COMMIT" t || isKw "END" t then
    bump
    if ← optKw "TRANSACTION" then
      if (nameOf? (← peek)).isSome then bump
    pure .commit
  else if isKw "ROLLBACK" t then
    bump
    if ← optKw "TRANSACTION" then
      if !(← atKw "TO") && (nameOf? (← peek)).isSome then bump
    if ← optKw "TO" then
      discard (optKw "SAVEPOINT")
      pure (.rollback (some (← name)))
    else pure (.rollback none)
  else if isKw "SAVEPOINT" t then
    bump
    pure (.savepoint (← name))
  else if isKw "RELEASE" t then
    bump
    discard (optKw "SAVEPOINT")
    pure (.release (← name))
  else if isKw "PRAGMA" t then
    bump
    let n ← qualified
    if ← optSym "=" then pure (.pragma n (some (← pragmaValue)))
    else if ← optSym "(" then
      let v ← pragmaValue
      sym ")"
      pure (.pragma n (some v))
    else pure (.pragma n none)
  else if isKw "VACUUM" t then
    bump
    if (nameOf? (← peek)).isSome && !(← atKw "INTO") then bump
    if ← optKw "INTO" then discard (expr fuel)
    pure .vacuum
  else if isKw "ANALYZE" t || isKw "REINDEX" t then
    bump
    if (nameOf? (← peek)).isSome then discard qualified
    pure .maintenance
  else if isKw "ATTACH" t then
    bump
    discard (optKw "DATABASE")
    let file ← expr fuel
    kw "AS"
    let schema ← expr fuel
    if ← optKw "KEY" then discard (expr fuel)
    pure (.attach file schema)
  else if isKw "DETACH" t then
    bump
    discard (optKw "DATABASE")
    let schema ← expr fuel
    match schema with
    | .column none n _ => pure (.detach n)
    | .value (.text n) => pure (.detach n)
    | _ => pure (.detach "")
  else fail

/-- A statement, possibly under `EXPLAIN` or `EXPLAIN QUERY PLAN`. -/
def statement (fuel : Nat) : P SqlStatement := do
  if ← optKw "EXPLAIN" then
    if (← atKw "QUERY") && (← atKwAt 1 "PLAN") then
      bump
      bump
    pure (.explain (← plainStatement fuel))
  else plainStatement fuel

/-- A parsed statement with the names of its parameters by number (none for `?`). -/
structure Prepared where
  statement : SqlStatement
  params : Array (Option String)
  deriving Inhabited

/-- The first statement of a list of tokens and the tokens after it, empty statements skipped;
none when only empty statements are left. -/
def nextStatement (toks : List Lexeme) : Except SqlError (Option (Prepared × List Lexeme)) :=
  let toks := toks.dropWhile fun lx => lx.token == .symbol ";"
  if toks.isEmpty then .ok none
  else
    let arr := toks.toArray
    let run : P SqlStatement := do
      let s ← statement (20 * arr.size + 40)
      let t ← peek
      if t.isNone || isSym ";" t then pure s else fail
    match run.run { toks := arr } with
    | .error e => .error e
    | .ok (s, st) => .ok (some (⟨s, st.params⟩, toks.drop (st.pos + 1)))

end SqlParse

end TradeLedger
