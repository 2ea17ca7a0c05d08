import TradeLedger.Sql.Value
/-!
# Scalar functions on values

The built-in functions that compute a value from values. `LIKE` matches `%` and `_`, ASCII
letters without regard to case, with an optional escape; `GLOB` matches `*`, `?` and classes,
case and all. Texts are cut in characters, blobs in bytes; `round` rounds half away from zero.

## Main definitions

* `like`, `glob`, `substr`, `round`: the functions.
-/

namespace TradeLedger

namespace SqlFunc

/-- The longest text or blob the database holds, in bytes. -/
def lengthLimit : Nat := 1000000000

/-- The longest blob this library builds for a function asked for one, in bytes; a longer one
that the database could still hold is given as null. -/
def buildLimit : Nat := 4194304

/-- An ASCII letter in lower case. -/
def fold (c : Char) : Char := if 'A' ≤ c && c ≤ 'Z' then Char.ofNat (c.toNat + 32) else c

/-- Whether a text matches a `LIKE` pattern, with an optional escape character. -/
def likeChars (escape : Option Char) : List Char → List Char → Bool
  | [], s => s.isEmpty
  | p :: ps, s =>
    if escape == some p then
      match ps, s with
      | q :: qs, c :: cs => fold q == fold c && likeChars escape qs cs
      | _, _ => false
    else if p == '%' then
      (List.range (s.length + 1)).any fun k => likeChars escape ps (s.drop k)
    else if p == '_' then
      match s with
      | _ :: cs => likeChars escape ps cs
      | [] => false
    else
      match s with
      | c :: cs => fold p == fold c && likeChars escape ps cs
      | [] => false

/-- Whether a text matches a `LIKE` pattern. -/
def like (pattern text : String) (escape : Option Char) : Bool :=
  likeChars escape pattern.toList text.toList

/-- A bracketed class of a glob: whether it holds the character, and what follows the class;
none when the class is not closed. -/
def globClass (c : Char) (cs : List Char) : Option (Bool × List Char) :=
  let (negated, cs) := match cs with
    | '^' :: r => (true, r)
    | r => (false, r)
  -- a closing bracket first in the class is a member
  let (first, cs) := match cs with
    | ']' :: r => ([']'], r)
    | r => ([], r)
  let body := first ++ cs.takeWhile (· != ']')
  match cs.dropWhile (· != ']') with
  | ']' :: after =>
    let rec hit : List Char → Bool
      | a :: '-' :: b :: rest => (a ≤ c && c ≤ b) || hit rest
      | a :: rest => a == c || hit rest
      | [] => false
    some (hit body != negated, after)
  | _ => none

/-- Whether a text matches a glob pattern. -/
def globChars : List Char → List Char → Bool
  | [], s => s.isEmpty
  | p :: ps, s =>
    if p == '*' then (List.range (s.length + 1)).any fun k => globChars ps (s.drop k)
    else if p == '?' then
      match s with
      | _ :: cs => globChars ps cs
      | [] => false
    else if p == '[' then
      match s with
      | c :: cs =>
        match globClass c ps with
        | some (true, after) => globTail after cs
        | _ => false
      | [] => false
    else
      match s with
      | c :: cs => p == c && globChars ps cs
      | [] => false
where
  /-- The match after a class, on the pattern after the class. -/
  globTail (after : List Char) (cs : List Char) : Bool :=
    -- the class is shorter than the pattern it came from, so this is bounded by the text
    globLimited (after.length + cs.length + 1) after cs
  /-- The match with a bound on the work. -/
  globLimited : Nat → List Char → List Char → Bool
    | 0, _, _ => false
    | _ + 1, [], s => s.isEmpty
    | n + 1, p :: ps, s =>
      if p == '*' then (List.range (s.length + 1)).any fun k => globLimited n ps (s.drop k)
      else if p == '?' then
        match s with
        | _ :: cs => globLimited n ps cs
        | [] => false
      else if p == '[' then
        match s with
        | c :: cs =>
          match globClass c ps with
          | some (true, after) => globLimited n after cs
          | _ => false
        | [] => false
      else
        match s with
        | c :: cs => p == c && globLimited n ps cs
        | [] => false

/-- Whether a text matches a glob pattern. -/
def glob (pattern text : String) : Bool := globChars pattern.toList text.toList

/-- The characters of `substr`: from the one-based start `p1`, `p2` of them; a negative
start counts from the end and a negative count takes the characters before the start. -/
def substrRange (len p1 : Int) (p2? : Option Int) : Nat × Nat :=
  let (p2, negP2) := match p2? with
    | some p => if p < 0 then (-p, true) else (p, false)
    | none => (1000000000, false)
  let (p1, p2) :=
    if p1 < 0 then
      let p1 := p1 + len
      if p1 < 0 then (0, max (p2 + p1) 0) else (p1, p2)
    else if 0 < p1 then (p1 - 1, p2)
    else if 0 < p2 then (p1, p2 - 1)
    else (p1, p2)
  let (p1, p2) :=
    if negP2 then
      let p1 := p1 - p2
      if p1 < 0 then (0, max (p2 + p1) 0) else (p1, p2)
    else (p1, p2)
  (p1.toNat, p2.toNat)

/-- `substr` of a value: characters of a text, bytes of a blob; none for a null argument. -/
def substr (v : SqlValue) (start : Int) (count : Option Int) : SqlValue :=
  match v with
  | .null => .null
  | .blob bs =>
    let (a, n) := substrRange bs.length start count
    .blob ((bs.drop a).take n)
  | v =>
    let cs := (v.textOf.getD "").toList
    let (a, n) := substrRange cs.length start count
    .text (String.ofList ((cs.drop a).take n))

/-- The characters of a text with those in `set` removed from the left, the right, or both
ends. -/
def trim (s : String) (set : List Char) (left right : Bool) : String :=
  let cs := s.toList
  let cs := if left then cs.dropWhile (set.contains ·) else cs
  let cs := if right then (cs.reverse.dropWhile (set.contains ·)).reverse else cs
  String.ofList cs

/-- The upper-case hex digits of bytes. -/
def hex (bs : List UInt8) : String :=
  let digit (n : Nat) : Char := if n < 10 then Char.ofNat (48 + n) else Char.ofNat (55 + n)
  String.ofList (bs.flatMap fun b => [digit (b.toNat / 16), digit (b.toNat % 16)])

/-- The bytes a value is made of: a blob's own, the UTF-8 of anything else's text. -/
def bytesOf : SqlValue → List UInt8
  | .blob bs => bs
  | v => (v.textOf.getD "").toUTF8.toList

/-- A value written as a literal: a text in single quotes, a blob in hex, null as `NULL`. -/
def quote : SqlValue → String
  | .null => "NULL"
  | .integer i => toString i
  | .real x => SqlValue.realText x
  | .text s => "'" ++ String.intercalate "''" (s.splitOn "'") ++ "'"
  | .blob bs => "X'" ++ hex bs ++ "'"

/-- A real rounded half away from zero to `places` digits after the point. -/
def round (x : Float) (places : Int) : Float :=
  let places := if places < 0 then 0 else if 30 < places then 30 else places
  match Binary64.ofFloat x with
  | .finite neg m e =>
    let (tn, td) := Binary64.pow2Ratio e
    let scale := Nat.pow 10 places.toNat
    -- |x| * 10^places, rounded half up, then read back as a decimal
    let num := m * tn * scale
    let q := (2 * num + td) / (2 * td)
    Binary64.nearest neg q scale
  | _ => x

/-- The text a case map gives, ASCII letters only. -/
def lower (s : String) : String := s.map fold

/-- The text in upper case, ASCII letters only. -/
def upper (s : String) : String := s.map Char.toUpper

/-- The position of the first occurrence of `needle` in `hay`, counted from one, or zero. -/
def instr (hay needle : List Char) : Nat :=
  if needle.isEmpty then 1
  else
    match (List.range (hay.length + 1)).find? fun k => needle.isPrefixOf (hay.drop k) with
    | some k => k + 1
    | none => 0

/-- The text with every occurrence of `pat` replaced by `rep`. -/
def replace (s pat rep : String) : String :=
  if pat.isEmpty then s else rep.intercalate (s.splitOn pat)

/-- What the database knows of a function name with a number of arguments. -/
inductive Shape where
  | unknown
  | wrongCount
  | scalar
  | aggregate
  deriving Repr, DecidableEq, Inhabited

/-- The scalar functions with their least and greatest argument counts (none for no limit). -/
def scalarCounts : List (String × Nat × Option Nat) :=
  [("ABS", 1, some 1), ("CHANGES", 0, some 0), ("CHAR", 0, none), ("COALESCE", 2, none),
    ("CONCAT", 1, none), ("CONCAT_WS", 2, none), ("FORMAT", 0, none), ("PRINTF", 0, none),
    ("GLOB", 2, some 2), ("HEX", 1, some 1), ("IFNULL", 2, some 2), ("IIF", 2, some 3),
    ("IF", 2, some 3), ("INSTR", 2, some 2), ("LAST_INSERT_ROWID", 0, some 0),
    ("LENGTH", 1, some 1), ("LIKE", 2, some 3), ("LIKELIHOOD", 2, some 2), ("LIKELY", 1, some 1),
    ("LOWER", 1, some 1), ("LTRIM", 1, some 2), ("MAX", 2, none), ("MIN", 2, none),
    ("NULLIF", 2, some 2), ("OCTET_LENGTH", 1, some 1), ("QUOTE", 1, some 1),
    ("RANDOM", 0, some 0), ("RANDOMBLOB", 1, some 1), ("REPLACE", 3, some 3),
    ("ROUND", 1, some 2), ("RTRIM", 1, some 2), ("SIGN", 1, some 1),
    ("SQLITE_VERSION", 0, some 0), ("SUBSTR", 2, some 3), ("SUBSTRING", 2, some 3),
    ("TOTAL_CHANGES", 0, some 0), ("TRIM", 1, some 2), ("TYPEOF", 1, some 1),
    ("UNHEX", 1, some 2), ("UNICODE", 1, some 1), ("UNLIKELY", 1, some 1), ("UPPER", 1, some 1),
    ("ZEROBLOB", 1, some 1), ("DATE", 0, none), ("TIME", 0, none), ("DATETIME", 0, none),
    ("JULIANDAY", 0, none), ("UNIXEPOCH", 0, none), ("STRFTIME", 1, none),
    ("TIMEDIFF", 2, some 2),
    ("CEIL", 1, some 1), ("CEILING", 1, some 1), ("FLOOR", 1, some 1), ("TRUNC", 1, some 1),
    ("SQRT", 1, some 1), ("POW", 2, some 2), ("POWER", 2, some 2), ("MOD", 2, some 2),
    ("PI", 0, some 0), ("EXP", 1, some 1), ("LN", 1, some 1), ("LOG", 1, some 2),
    ("LOG10", 1, some 1), ("LOG2", 1, some 1)]

/-- The aggregate functions with their least and greatest argument counts. -/
def aggregateCounts : List (String × Nat × Nat) :=
  [("AVG", 1, 1), ("COUNT", 0, 1), ("GROUP_CONCAT", 1, 2), ("MAX", 1, 1), ("MIN", 1, 1),
    ("SUM", 1, 1), ("TOTAL", 1, 1), ("STRING_AGG", 2, 2)]

/-- What a call of a function with `argc` arguments is. -/
def shape (fname : String) (argc : Nat) : Shape :=
  let u := upper fname
  if (aggregateCounts.find? (·.1 == u)).any fun (_, lo, hi) => lo ≤ argc && argc ≤ hi then
    .aggregate
  else
    match scalarCounts.find? (·.1 == u) with
    | some (_, lo, hi) =>
      if lo ≤ argc && (hi.all (argc ≤ ·)) then .scalar else .wrongCount
    | none => if (aggregateCounts.find? (·.1 == u)).isSome then .wrongCount else .unknown

end SqlFunc

end TradeLedger
