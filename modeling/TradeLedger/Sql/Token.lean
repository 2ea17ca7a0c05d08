import TradeLedger.Sql.Value
/-!
# Tokens of statement text

Spaces and comments separate tokens: words (keywords or names, perhaps quoted), texts, blobs,
numbers, parameters and symbols. What is no token ends the text there, reported when the parser
reaches it, so earlier statements still run. The text ends at its first NUL.

## Main definitions

* `SqlToken`: a token.
* `scan`: the tokens of a text.
-/

namespace TradeLedger

/-- A token of statement text. -/
inductive SqlToken where
  /-- a bare word: a keyword or a name -/
  | word (text : String)
  /-- a quoted name; double quotes may also make a text -/
  | quoted (text : String) (doubleQuoted : Bool)
  | string (text : String)
  | blob (bytes : List UInt8)
  | integer (text : String)
  | real (text : String)
  /-- a parameter as written: `?`, `?3`, `:a`, `@a`, `$a` -/
  | parameter (text : String)
  /-- punctuation or an operator -/
  | symbol (text : String)
  /-- text that is no token -/
  | illegal
  deriving Repr, Inhabited, DecidableEq

/-- A token with the text it was cut from. -/
structure Lexeme where
  token : SqlToken
  raw : String
  deriving Repr, Inhabited, DecidableEq

namespace Lexeme

/-- Characters that may continue a word. -/
def isWordChar (c : Char) : Bool :=
  c.isAlphanum || c == '_' || c == '$' || 128 ≤ c.toNat

/-- Characters that may start a word. -/
def isWordStart (c : Char) : Bool := c.isAlpha || c == '_' || 128 ≤ c.toNat

/-- The separators between tokens. -/
def isSpace (c : Char) : Bool :=
  c == ' ' || c == '\t' || c == '\n' || c == '\x0c' || c == '\r'

def isHexDigit (c : Char) : Bool :=
  c.isDigit || ('a' ≤ c && c ≤ 'f') || ('A' ≤ c && c ≤ 'F')

def hexValue (c : Char) : Nat :=
  if c.isDigit then c.toNat - 48
  else if 'a' ≤ c && c ≤ 'f' then c.toNat - 87
  else c.toNat - 55

/-- The text between two delimiters, a doubled delimiter standing for one: the text, whether
the closing delimiter was found, and what follows it. -/
def delimited (delim : Char) : List Char → List Char × Bool × List Char
  | [] => ([], false, [])
  | c :: rest =>
    if c == delim then
      match rest with
      | d :: more =>
        if d == delim then
          let (body, closed, after) := delimited delim more
          (delim :: body, closed, after)
        else ([], true, rest)
      | [] => ([], true, [])
    else
      let (body, closed, after) := delimited delim rest
      (c :: body, closed, after)

/-- The raw text of a delimited run: the characters consumed, delimiters and doubled ones
included. -/
def consumed (whole after : List Char) : String := String.ofList (whole.take (whole.length - after.length))

/-- A run of digits (hex digits when `hex`) with single underscores between digits: its length
and whether an underscore stood in it. -/
def digitRun (hex : Bool) : List Char → Nat × Bool
  | [] => (0, false)
  | c :: rest =>
    let isD := if hex then isHexDigit c else c.isDigit
    if isD then
      let (n, u) := digitRun hex rest
      (n + 1, u)
    else if c == '_' then
      let (n, u) := digitRun hex rest
      (n + 1, u || true)
    else (0, false)

/-- Whether every underscore of a numeral stands between two digits. -/
def separatorsOk (hex : Bool) (cs : List Char) : Bool :=
  let isD (c : Char) := if hex then isHexDigit c else c.isDigit
  let rec go : List Char → Bool
    | a :: '_' :: b :: rest => isD a && isD b && go (b :: rest)
    | '_' :: _ => false
    | _ :: rest => go rest
    | [] => true
  match cs with
  | '_' :: _ => false
  | _ => go cs

/-- Cut a number off the front of a text: its token and what follows. -/
def number (cs : List Char) : SqlToken × List Char :=
  match cs with
  | '0' :: x :: h :: rest =>
    if (x == 'x' || x == 'X') && isHexDigit h then
      let (n, _) := digitRun true (h :: rest)
      let body := (h :: rest).take n
      let after := (h :: rest).drop n
      if after.head?.any isWordChar || !separatorsOk true body then
        (.illegal, after.dropWhile isWordChar)
      else (.integer (String.ofList ('0' :: x :: body.filter (· != '_'))), after)
    else decimal cs
  | _ => decimal cs
where
  /-- A decimal numeral: digits, a fraction, an exponent. -/
  decimal (cs : List Char) : SqlToken × List Char :=
    let (n, _) := digitRun false cs
    let whole := cs.take n
    let cs1 := cs.drop n
    let (frac, pointed, cs2) := match cs1 with
      | '.' :: r =>
        let (m, _) := digitRun false r
        ('.' :: r.take m, true, r.drop m)
      | r => ([], false, r)
    let (exp, marked, cs3) := match cs2 with
      | e :: d :: r =>
        if (e == 'e' || e == 'E') && d.isDigit then
          let (m, _) := digitRun false (d :: r)
          (e :: (d :: r).take m, true, (d :: r).drop m)
        else if (e == 'e' || e == 'E') && (d == '+' || d == '-') then
          match r with
          | g :: r' =>
            if g.isDigit then
              let (m, _) := digitRun false (g :: r')
              (e :: d :: (g :: r').take m, true, (g :: r').drop m)
            else ([], false, cs2)
          | [] => ([], false, cs2)
        else ([], false, cs2)
      | r => ([], false, r)
    let text := whole ++ frac ++ exp
    if cs3.head?.any isWordChar then (.illegal, cs3.dropWhile isWordChar)
    else if !(separatorsOk false whole && separatorsOk false (frac.drop 1) &&
        separatorsOk false (exp.drop 1 |>.dropWhile (fun c => c == '+' || c == '-'))) then
      (.illegal, cs3)
    else
      let clean := String.ofList (text.filter (· != '_'))
      if pointed || marked then (.real clean, cs3) else (.integer clean, cs3)

/-- The operators and punctuation, longest first. -/
def symbols : List String :=
  ["->>", "->", "==", "<=", "<>", "<<", ">=", ">>", "!=", "||", "(", ")", ";", "+", "-", "*", "/",
    "%", "=", "<", ">", ",", "&", "|", "~", "."]

/-- The symbol at the front of a text. -/
def symbolAt (cs : List Char) : Option String :=
  symbols.find? fun s => s.toList.isPrefixOf cs

/-- The bytes of a blob literal's hex digits. -/
def hexBytes : List Char → List UInt8
  | a :: b :: rest => UInt8.ofNat (hexValue a * 16 + hexValue b) :: hexBytes rest
  | _ => []

/-- The name after a parameter's sign: its length, and whether it makes a parameter. A name
may go on after `::`, and may end in a parenthesised suffix. -/
def parameterName (fuel : Nat) (cs : List Char) : Nat × Bool :=
  match fuel with
  | 0 => (0, false)
  | fuel + 1 =>
    let name := cs.takeWhile isWordChar
    let rest := cs.drop name.length
    if name.isEmpty then (0, false)
    else
      match rest with
      | '(' :: more =>
        let inside := more.takeWhile fun c => !isSpace c && c != ')'
        match more.drop inside.length with
        | ')' :: _ => (name.length + inside.length + 2, true)
        | _ => (name.length + inside.length + 1, false)
      | ':' :: ':' :: more =>
        let (n, ok) := parameterName fuel more
        (name.length + 2 + n, ok || n == 0)
      | _ => (name.length, true)

/-- One step of the scanner: skip spaces and comments, then cut one token. The result is
none at the end of the text, and otherwise the token and what follows it; a token that is
not one comes with an empty rest, since scanning stops there. -/
def next (cs : List Char) : Option (Lexeme × List Char) :=
  match cs with
  | [] => none
  | c :: rest =>
    if isSpace c then none
    else if c == '\'' then
      let (body, closed, after) := delimited '\'' rest
      if closed then some (⟨.string (String.ofList body), consumed cs after⟩, after)
      else some (⟨.illegal, String.ofList cs⟩, [])
    else if c == '"' || c == '`' then
      let (body, closed, after) := delimited c rest
      if closed then some (⟨.quoted (String.ofList body) (c == '"'), consumed cs after⟩, after)
      else some (⟨.illegal, String.ofList cs⟩, [])
    else if c == '[' then
      let body := rest.takeWhile (· != ']')
      match rest.drop body.length with
      | ']' :: after => some (⟨.quoted (String.ofList body) false, consumed cs after⟩, after)
      | _ => some (⟨.illegal, String.ofList cs⟩, [])
    else if (c == 'x' || c == 'X') && rest.head? == some '\'' then
      let digits := (rest.drop 1).takeWhile isHexDigit
      let after := (rest.drop 1).drop digits.length
      match after with
      | '\'' :: more =>
        if digits.length % 2 == 0 then
          some (⟨.blob (hexBytes digits), consumed cs more⟩, more)
        else some (⟨.illegal, consumed cs more⟩, [])
      | _ =>
        let junk := after.takeWhile (· != '\'')
        let more := after.drop junk.length
        some (⟨.illegal, consumed cs (more.drop 1)⟩, [])
    else if c.isDigit || (c == '.' && rest.head?.any Char.isDigit) then
      let (tok, after) := number cs
      match tok with
      | .illegal => some (⟨.illegal, consumed cs after⟩, [])
      | t => some (⟨t, consumed cs after⟩, after)
    else if c == '?' then
      let ds := rest.takeWhile Char.isDigit
      let after := rest.drop ds.length
      some (⟨.parameter (String.ofList (c :: ds)), consumed cs after⟩, after)
    else if c == ':' || c == '@' || c == '$' || c == '#' then
      let (n, ok) := parameterName (rest.length + 1) rest
      let after := rest.drop n
      if ok then some (⟨.parameter (consumed cs after), consumed cs after⟩, after)
      else some (⟨.illegal, consumed cs after⟩, [])
    else if isWordStart c then
      let w := cs.takeWhile isWordChar
      some (⟨.word (String.ofList w), String.ofList w⟩, cs.drop w.length)
    else
      match symbolAt cs with
      | some s => some (⟨.symbol s, s⟩, cs.drop s.length)
      | none => some (⟨.illegal, String.singleton c⟩, [])

/-- Skip spaces and comments at the front of a text. -/
def skipBlank (fuel : Nat) (cs : List Char) : List Char :=
  match fuel with
  | 0 => cs
  | fuel + 1 =>
    match cs with
    | c :: rest =>
      if isSpace c then skipBlank fuel rest
      else match rest with
        | d :: more =>
          if c == '-' && d == '-' then
            skipBlank fuel ((more.dropWhile (· != '\n')))
          else if c == '/' && d == '*' then
            skipBlank fuel (closeComment more)
          else cs
        | [] => cs
    | [] => []
where
  /-- What follows the end of a block comment; nothing when it is not closed. -/
  closeComment : List Char → List Char
    | '*' :: '/' :: rest => rest
    | _ :: rest => closeComment rest
    | [] => []

/-- The tokens of a text, up to its first NUL character; scanning stops after a token that is
not one. -/
def scanChars (fuel : Nat) (cs : List Char) : List Lexeme :=
  match fuel with
  | 0 => []
  | fuel + 1 =>
    let cs := skipBlank (cs.length + 1) cs
    match next cs with
    | none => []
    | some (lx, after) =>
      if lx.token == .illegal then [lx] else lx :: scanChars fuel after

/-- The tokens of a statement text. -/
def scan (text : String) : List Lexeme :=
  let cs := text.toList.takeWhile (· != '\x00')
  scanChars (cs.length + 1) cs

end Lexeme

end TradeLedger
