import TradeLedger.Yaml.Token
import TradeLedger.Yaml.Problem
import TradeLedger.Text.Utf8
/-!
# Cutting a YAML text into tokens

The scanner walks the text once, queueing the tokens it has cut. A *simple key* (written
without `?`) is a key once a `:` follows on its line within 1024 characters, its key token then
going before the token that began it; a block collection starts where the first entry's column
is deeper than the indentation, and ends with one token when a token stands left of its column.
A simple key that must be one is refused when its line ends without `:`. Plain and quoted
scalars fold line breaks into spaces; block scalars keep or fold lines past their indentation.

## Main definitions

* `Scanner`: the scanner's state.
* `Scanner.fetchNext`, `Scanner.peekToken`: cutting and reading the next token.
-/

namespace TradeLedger

/-- A place where a simple key may have started: whether it still may be one, whether it must
be one, the number its first token has, and where it is. -/
structure SimpleKey where
  possible : Bool := false
  required : Bool := false
  number : Nat := 0
  mark : Mark := {}
  deriving Repr, Inhabited

/-- The state of a walk over a YAML text. -/
structure Scanner where
  /-- the text, after any byte order mark at its start -/
  text : Array Char
  /-- where the walk is -/
  mark : Mark := {}
  /-- the tokens cut but not handed on -/
  queue : Array Token := #[]
  /-- how many tokens were handed on -/
  taken : Nat := 0
  /-- whether the queue was filled since the last token was handed on -/
  ready : Bool := false
  /-- whether the stream start token was cut -/
  started : Bool := false
  /-- the column of the innermost block collection, or -1 -/
  indent : Int := -1
  /-- the columns of the block collections around it, innermost first -/
  indents : List Int := []
  /-- whether a simple key may start here -/
  keyAllowed : Bool := false
  /-- the possible simple key of each flow level, the innermost last -/
  keys : Array SimpleKey := #[]
  /-- how many flow collections are open -/
  flowLevel : Nat := 0
  /-- the possible simple keys by the number of their first token -/
  keyTokens : List (Nat × Nat) := []
  deriving Inhabited

/-- A step of a walk, which may find the text malformed. -/
abbrev Scan := StateT Scanner (Except YamlProblem)

namespace Scanner

/-- The character `k` places ahead, or NUL past the end. -/
def ch (s : Scanner) (k : Nat) : Char := s.text.getD (s.mark.index + k) '\x00'

/-- More steps than any loop over the text can take. -/
def budget (s : Scanner) : Nat := s.text.size + 8

/-- Move past a character on the line. -/
def advance (s : Scanner) : Scanner :=
  { s with mark := { s.mark with index := s.mark.index + 1, column := s.mark.column + 1 } }

/-- Move past a line break: a carriage return and line feed count as one. -/
def nextLine (s : Scanner) : Scanner :=
  if s.ch 0 == '\r' && s.ch 1 == '\n' then
    { s with mark := { index := s.mark.index + 2, line := s.mark.line + 1, column := 0 } }
  else if YamlChar.isBreak (s.ch 0) then
    { s with mark := { index := s.mark.index + 1, line := s.mark.line + 1, column := 0 } }
  else s

/-- Start a walk over a text: a byte order mark at its start is dropped, and a text with a
character that YAML does not allow is refused. -/
def ofText (text : String) : Except YamlProblem Scanner :=
  let cs := match text.toList with
    | '﻿' :: rest => rest
    | cs => cs
  if cs.all YamlChar.isYamlText then .ok { text := cs.toArray }
  else .error (YamlProblem.refused "control characters are not allowed")

/-- The character at the walk. -/
def here : Scan Char := do return (← get).ch 0

/-- The character `k` places ahead. -/
def ahead (k : Nat) : Scan Char := do return (← get).ch k

/-- Where the walk is. -/
def pos : Scan Mark := do return (← get).mark

/-- Move past a character. -/
def skip : Scan Unit := modify advance

/-- Move past a line break. -/
def skipLine : Scan Unit := modify nextLine

/-- Copy the character at the walk and move past it. -/
def take (acc : String) : Scan String := do
  let c ← here
  skip
  return acc.push c

/-- Copy a line break as a line feed (the line and paragraph separators stay as they are) and
move past it. -/
def takeLine (acc : String) : Scan String := do
  let c ← here
  if c == '\r' || c == '\n' || c == '\x85' then
    skipLine
    return acc.push '\n'
  else if YamlChar.isBreak c then
    skipLine
    return acc.push c
  else return acc

/-- Move past the characters that satisfy `p`. -/
def skipWhile (p : Char → Bool) : Scan Unit := do
  for _ in [0:(← get).budget] do
    if p (← here) then skip else break

/-- Copy the characters that satisfy `p`. -/
def takeWhile (p : Char → Bool) (acc : String) : Scan String := do
  let mut acc := acc
  for _ in [0:(← get).budget] do
    if p (← here) then acc ← take acc else break
  return acc

/-- Refuse the text with a problem met while reading what started at `context`. -/
def fail {α : Type} (context : Mark) (message : String) : Scan α := do
  throw (YamlProblem.cutting context.line (← get).mark.line message)

/-- Whether an indicator of three characters (`---` or `...`) starts the line here. -/
def atDocumentIndicator (s : Scanner) : Bool :=
  s.mark.column == 0 &&
    ((s.ch 0 == '-' && s.ch 1 == '-' && s.ch 2 == '-') ||
      (s.ch 0 == '.' && s.ch 1 == '.' && s.ch 2 == '.')) &&
    YamlChar.isSpaceOrEnd (s.ch 3)

/-! ## The token queue -/

/-- Put a token at the end of the queue. -/
def push (t : Token) : Scan Unit := modify fun s => { s with queue := s.queue.push t }

/-- Put a token in the queue before the one at `pos`. -/
def insert (pos : Nat) (t : Token) : Scan Unit := modify fun s =>
  { s with queue := (s.queue.extract 0 pos).push t ++ s.queue.extract pos s.queue.size }

/-- Move past one character and queue a token of `kind` for it. -/
def pushIndicator (kind : TokenKind) : Scan Unit := do
  let start ← pos
  skip
  push ⟨kind, start, ← pos⟩

/-! ## Simple keys -/

/-- Forget the key whose first token has number `n`. -/
def forgetToken (n : Nat) (m : List (Nat × Nat)) : List (Nat × Nat) := m.filter (·.1 != n)

/-- Whether the simple key of flow level `i` may still be one: not once its line has ended or
1024 characters have passed, and then a key that must be one is refused. -/
def keyStillPossible (i : Nat) : Scan Bool := do
  let s ← get
  let k := s.keys.getD i {}
  if !k.possible then return false
  if k.mark.line < s.mark.line || k.mark.index + 1024 < s.mark.index then
    if k.required then fail k.mark "could not find expected ':'"
    set { s with keys := s.keys.modify i fun k => { k with possible := false } }
    return false
  return true

/-- Give up the simple key of the current flow level; a key that must be one is refused. -/
def removeKey : Scan Unit := do
  let s ← get
  let i := s.keys.size - 1
  let k := s.keys.getD i {}
  if k.possible then
    if k.required then fail k.mark "could not find expected ':'"
    set { s with
      keys := s.keys.modify i fun k => { k with possible := false }
      keyTokens := forgetToken k.number s.keyTokens }

/-- Remember that a simple key may start here, if one may. It must be one in block context at
the column of the current indentation. -/
def saveKey : Scan Unit := do
  let s ← get
  if s.keyAllowed then
    let key : SimpleKey :=
      { possible := true
        required := s.flowLevel == 0 && s.indent == (s.mark.column : Int)
        number := s.taken + s.queue.size
        mark := s.mark }
    removeKey
    modify fun s =>
      let i := s.keys.size - 1
      { s with
        keys := s.keys.modify i fun _ => key
        keyTokens := (key.number, i) :: forgetToken key.number s.keyTokens }

/-- Open a flow level, with no possible simple key yet. -/
def enterFlow : Scan Unit := do
  modify fun s =>
    { s with
      keys := s.keys.push { number := s.taken + s.queue.size, mark := s.mark }
      flowLevel := s.flowLevel + 1 }
  let s ← get
  if s.flowLevel > 10000 then fail s.mark "exceeded max depth of 10000"

/-- Close a flow level and forget its possible simple key. -/
def leaveFlow : Scan Unit := modify fun s =>
  if s.flowLevel > 0 then
    { s with
      flowLevel := s.flowLevel - 1
      keyTokens := forgetToken ((s.keys.back?.map (·.number)).getD 0) s.keyTokens
      keys := s.keys.pop }
  else s

/-! ## Indentation -/

/-- In block context, start a block collection of `kind` at `column` when it lies deeper than
the current indentation: its start token goes at the end of the queue, or before the token
numbered `number`. -/
def rollIndent (column : Nat) (number : Option Nat) (kind : TokenKind) (start : Mark) :
    Scan Unit := do
  let s ← get
  if s.flowLevel == 0 && s.indent < (column : Int) then
    set { s with indents := s.indent :: s.indents, indent := column }
    if s.indents.length + 1 > 10000 then
      fail ((s.keys.back?.map (·.mark)).getD {}) "exceeded max depth of 10000"
    let t : Token := ⟨kind, start, start⟩
    match number with
    | none => push t
    | some n => insert (n - s.taken) t

/-- In block context, end every block collection deeper than `column`. -/
def unrollIndent (column : Int) (scanMark : Mark) : Scan Unit := do
  if (← get).flowLevel > 0 then return
  let blockMark := { scanMark with index := scanMark.index - 1 }
  for _ in [0:(← get).indents.length + 1] do
    let s ← get
    if s.indent > column then
      set { s with
        queue := s.queue.push ⟨.blockEnd, blockMark, blockMark⟩
        indent := s.indents.headD (-1)
        indents := s.indents.tail }
    else break

/-! ## Scalars -/

/-- Read a plain scalar. Its continuation lines in block context must lie deeper than the
current indentation, and a tab may not stand in their indentation. -/
def scanPlain : Scan Token := do
  let start ← pos
  let mut stop := start
  let mut text := ""
  let mut leadingBreak := ""
  let mut trailingBreaks := ""
  let mut whitespaces := ""
  let mut leadingBlanks := false
  let indent := (← get).indent + 1
  for _ in [0:(← get).budget] do
    let s ← get
    if s.atDocumentIndicator || s.ch 0 == '#' then break
    for _ in [0:(← get).budget] do
      let s ← get
      let c := s.ch 0
      if YamlChar.isSpaceOrEnd c then break
      if (c == ':' && YamlChar.isSpaceOrEnd (s.ch 1)) ||
          (s.flowLevel > 0 && (c == ',' || c == '?' || c == '[' || c == ']' || c == '\x7b' ||
            c == '\x7d')) then
        break
      if leadingBlanks then
        if leadingBreak.startsWith "\n" then
          text := text ++ (if trailingBreaks.isEmpty then " " else trailingBreaks)
        else
          text := text ++ leadingBreak ++ trailingBreaks
        trailingBreaks := ""
        leadingBreak := ""
        leadingBlanks := false
      else if !whitespaces.isEmpty then
        text := text ++ whitespaces
        whitespaces := ""
      text ← take text
      stop ← pos
    let c ← here
    if !(YamlChar.isBlank c || YamlChar.isBreak c) then break
    for _ in [0:(← get).budget] do
      let s ← get
      let c := s.ch 0
      if YamlChar.isBlank c then
        if leadingBlanks && (s.mark.column : Int) < indent && c == '\t' then
          fail start "found a tab character that violates indentation"
        if leadingBlanks then skip else whitespaces ← take whitespaces
      else if YamlChar.isBreak c then
        if leadingBlanks then trailingBreaks ← takeLine trailingBreaks
        else
          whitespaces := ""
          leadingBreak ← takeLine leadingBreak
          leadingBlanks := true
      else break
    let s ← get
    if s.flowLevel == 0 && (s.mark.column : Int) < indent then break
  if leadingBlanks then modify fun s => { s with keyAllowed := true }
  return ⟨.scalar text .plain, start, stop⟩

/-- The character of a one-letter escape in double quotes, if the letter names one. -/
def escaped? : Char → Option Char
  | '0' => some '\x00'
  | 'a' => some '\x07'
  | 'b' => some '\x08'
  | 't' => some '\t'
  | '\t' => some '\t'
  | 'n' => some '\n'
  | 'v' => some '\x0b'
  | 'f' => some '\x0c'
  | 'r' => some '\r'
  | 'e' => some '\x1b'
  | ' ' => some ' '
  | '"' => some '"'
  | '\'' => some '\''
  | '\\' => some '\\'
  | 'N' => some '\x85'
  | '_' => some '\xa0'
  | 'L' => some ' '
  | 'P' => some ' '
  | _ => none

/-- The number of hexadecimal digits of a code escape (`\x`, `\u` or `\U`), or zero. -/
def escapeWidth : Char → Nat
  | 'x' => 2
  | 'u' => 4
  | 'U' => 8
  | _ => 0

/-- Read a scalar in single or double quotes. Line breaks inside fold as in a plain scalar; in
single quotes a doubled quote stands for itself, and in double quotes a backslash starts an
escape or hides a line break. -/
def scanQuoted (single : Bool) : Scan Token := do
  let start ← pos
  skip
  let mut text := ""
  let mut leadingBreak := ""
  let mut trailingBreaks := ""
  let mut whitespaces := ""
  for _ in [0:(← get).budget] do
    let s ← get
    if s.atDocumentIndicator then fail start "found unexpected document indicator"
    if YamlChar.isEnd (s.ch 0) then fail start "found unexpected end of stream"
    let mut leadingBlanks := false
    for _ in [0:(← get).budget] do
      let s ← get
      let c := s.ch 0
      if YamlChar.isSpaceOrEnd c then break
      if single && c == '\'' && s.ch 1 == '\'' then
        text := text.push '\''
        skip
        skip
      else if single && c == '\'' then break
      else if !single && c == '"' then break
      else if !single && c == '\\' && YamlChar.isBreak (s.ch 1) then
        skip
        skipLine
        leadingBlanks := true
        break
      else if !single && c == '\\' then
        let e := s.ch 1
        let width := escapeWidth e
        match escaped? e with
        | some x =>
          text := text.push x
          skip
          skip
        | none =>
          if width == 0 then fail start "found unknown escape character"
          skip
          skip
          let mut code := 0
          for k in [0:width] do
            match YamlChar.hexValue? (← ahead k) with
            | some d => code := code * 16 + d
            | none => fail start "did not find expected hexdecimal number"
          if (0xD800 ≤ code && code ≤ 0xDFFF) || code > 0x10FFFF then
            fail start "found invalid Unicode character escape code"
          text := text.push (Char.ofNat code)
          for _ in [0:width] do skip
      else text ← take text
    let c ← here
    if (single && c == '\'') || (!single && c == '"') then break
    for _ in [0:(← get).budget] do
      let c ← here
      if YamlChar.isBlank c then
        if leadingBlanks then skip else whitespaces ← take whitespaces
      else if YamlChar.isBreak c then
        if leadingBlanks then trailingBreaks ← takeLine trailingBreaks
        else
          whitespaces := ""
          leadingBreak ← takeLine leadingBreak
          leadingBlanks := true
      else break
    if leadingBlanks then
      if leadingBreak.startsWith "\n" then
        text := text ++ (if trailingBreaks.isEmpty then " " else trailingBreaks)
      else
        text := text ++ leadingBreak ++ trailingBreaks
      trailingBreaks := ""
      leadingBreak := ""
    else
      text := text ++ whitespaces
      whitespaces := ""
  skip
  return ⟨.scalar text (if single then .singleQuoted else .doubleQuoted), start, ← pos⟩

/-- Move past the indentation and empty lines before a line of a block scalar, copying the
breaks. With no indentation given, it is the deepest column met, but at least one past the
current indentation and at least 1. -/
def blockBreaks (start : Mark) (given : Nat) : Scan (Nat × String × Mark) := do
  let mut stop ← pos
  let mut deepest := 0
  let mut breaks := ""
  for _ in [0:(← get).budget] do
    for _ in [0:(← get).budget] do
      let s ← get
      if (given == 0 || s.mark.column < given) && s.ch 0 == ' ' then skip else break
    let s ← get
    if s.mark.column > deepest then deepest := s.mark.column
    if (given == 0 || s.mark.column < given) && s.ch 0 == '\t' then
      fail start "found a tab character where an indentation space is expected"
    if !YamlChar.isBreak (s.ch 0) then break
    breaks ← takeLine breaks
    stop ← pos
  if given != 0 then return (given, breaks, stop)
  let floor := (← get).indent + 1
  let indent := max (max deepest floor.toNat) 1
  return (indent, breaks, stop)

/-- The chomping indicator of a block scalar: `-` strips the final breaks, `+` keeps them. -/
def chompingOf (c : Char) : Int := if c == '+' then 1 else -1

/-- Read a literal (`|`) or folded (`>`) block scalar. Its header may give the chomping and
the indentation (a digit, from the current indentation); folding joins lines by a space, but
not lines that start with a blank nor the lines around them. -/
def scanBlock (literal : Bool) : Scan Token := do
  let start ← pos
  skip
  let mut chomping : Int := 0
  let mut increment := 0
  let c ← here
  if c == '+' || c == '-' then
    chomping := chompingOf c
    skip
    let d ← here
    if d.isDigit then
      if d == '0' then fail start "found an indentation indicator equal to 0"
      increment := d.toNat - 48
      skip
  else if c.isDigit then
    if c == '0' then fail start "found an indentation indicator equal to 0"
    increment := c.toNat - 48
    skip
    let d ← here
    if d == '+' || d == '-' then
      chomping := chompingOf d
      skip
  skipWhile YamlChar.isBlank
  if (← here) == '#' then skipWhile fun c => !YamlChar.isBreakOrEnd c
  if !YamlChar.isBreakOrEnd (← here) then fail start "did not find expected comment or line break"
  if YamlChar.isBreak (← here) then skipLine
  let s ← get
  let given := if increment > 0 then
      (if s.indent ≥ 0 then s.indent.toNat + increment else increment)
    else 0
  let (indent, firstBreaks, firstStop) ← blockBreaks start given
  let mut stop := firstStop
  let mut trailingBreaks := firstBreaks
  let mut text := ""
  let mut leadingBreak := ""
  let mut leadingBlank := false
  for _ in [0:(← get).budget] do
    let s ← get
    if s.mark.column != indent || YamlChar.isEnd (s.ch 0) then break
    let trailingBlank := YamlChar.isBlank (s.ch 0)
    if !literal && !leadingBlank && !trailingBlank && leadingBreak.startsWith "\n" then
      if trailingBreaks.isEmpty then text := text.push ' '
    else text := text ++ leadingBreak
    text := text ++ trailingBreaks
    leadingBreak := ""
    trailingBreaks := ""
    leadingBlank := YamlChar.isBlank (s.ch 0)
    text ← takeWhile (fun c => !YamlChar.isBreakOrEnd c) text
    leadingBreak ← takeLine leadingBreak
    let (_, breaks, next) ← blockBreaks start indent
    trailingBreaks := breaks
    stop := next
  if chomping != -1 then text := text ++ leadingBreak
  if chomping == 1 then text := text ++ trailingBreaks
  return ⟨.scalar text (if literal then .literal else .folded), start, stop⟩

/-! ## Anchors, tags and directives -/

/-- Read an anchor (`&name`) or a reference (`*name`): a name of word characters followed by a
blank or one of `?:,]}%@` and the backtick. -/
def scanAnchor (reference : Bool) : Scan Token := do
  let start ← pos
  skip
  let name ← takeWhile YamlChar.isWordChar ""
  let stop ← pos
  let c ← here
  if name.isEmpty || !(YamlChar.isSpaceOrEnd c || c == '?' || c == ':' || c == ',' || c == ']' ||
      c == '\x7d' || c == '%' || c == '@' || c == '`') then
    fail start "did not find expected alphabetic or numeric character"
  return ⟨if reference then .reference name else .anchor name, start, stop⟩

/-- Read a tag handle: `!`, `!!` or `!name!`; in a tag, a `!name` without the closing `!` is
the start of a suffix, and in a directive it is refused. -/
def scanTagHandle (directive : Bool) (start : Mark) : Scan String := do
  if (← here) != '!' then fail start "did not find expected '!'"
  let mut handle ← take ""
  handle ← takeWhile YamlChar.isWordChar handle
  if (← here) == '!' then handle ← take handle
  else if directive && handle != "!" then fail start "did not find expected '!'"
  return handle

/-- The width of the UTF-8 sequence that a byte starts, or zero for a byte that starts none. -/
def sequenceWidth (b : Nat) : Nat :=
  if b < 0x80 then 1
  else if b / 32 == 6 then 2
  else if b / 16 == 14 then 3
  else if b / 8 == 30 then 4
  else 0

/-- Read the bytes of one character written with `%` escapes in a tag URI. -/
def scanUriEscapes (start : Mark) : Scan (List UInt8) := do
  let mut bytes : List UInt8 := []
  let mut left := 1
  let mut first := true
  for _ in [0:(← get).budget] do
    if left == 0 then break
    let s ← get
    let octet := match YamlChar.hexValue? (s.ch 1), YamlChar.hexValue? (s.ch 2) with
      | some h, some l => if s.ch 0 == '%' then some (h * 16 + l) else none
      | _, _ => none
    match octet with
    | none => fail start "did not find URI escaped octet"
    | some o =>
      if first then
        left := sequenceWidth o
        first := false
        if left == 0 then fail start "found an incorrect leading UTF-8 octet"
      else if o / 64 != 2 then fail start "found an incorrect trailing UTF-8 octet"
      bytes := bytes ++ [o.toUInt8]
      skip
      skip
      skip
      left := left - 1
  return bytes

/-- Read a tag URI, after the part `head` already read (whose leading `!` is dropped). -/
def scanTagUri (head : String) (start : Mark) : Scan String := do
  let mut uri := String.ofList (head.toList.drop 1)
  let mut hasTag := !head.isEmpty
  for _ in [0:(← get).budget] do
    let c ← here
    if !YamlChar.isUriChar c then break
    if c == '%' then uri := uri ++ Utf8.lossy (← scanUriEscapes start)
    else uri ← take uri
    hasTag := true
  if !hasTag then fail start "did not find expected tag URI"
  return uri

/-- Read a tag: verbatim (`!<uri>`), with a handle (`!!suffix`, `!name!suffix`), or primary
(`!suffix`); the lone `!` is the non-specific tag. A tag ends at a blank, or at a comma in
flow context. -/
def scanTag : Scan Token := do
  let start ← pos
  let (handle, suffix) ← if (← ahead 1) == '<' then do
      skip
      skip
      let suffix ← scanTagUri "" start
      if (← here) != '>' then fail start "did not find the expected '>'"
      skip
      pure ("", suffix)
    else do
      let handle ← scanTagHandle false start
      if handle.length > 1 && handle.startsWith "!" && handle.endsWith "!" then
        pure (handle, ← scanTagUri "" start)
      else
        let suffix ← scanTagUri handle start
        if suffix.isEmpty then pure ("", "!") else pure ("!", suffix)
  let s ← get
  if !YamlChar.isSpaceOrEnd (s.ch 0) && (s.flowLevel == 0 || s.ch 0 != ',') then
    fail start "did not find expected whitespace or line break"
  return ⟨.tag handle suffix, start, s.mark⟩

/-- Read one number of a `%YAML` directive: one or two digits. -/
def scanVersionNumber (start : Mark) : Scan Nat := do
  let mut value := 0
  let mut length := 0
  for _ in [0:(← get).budget] do
    let c ← here
    if !c.isDigit then break
    length := length + 1
    if length > 2 then fail start "found extremely long version number"
    value := value * 10 + (c.toNat - 48)
    skip
  if length == 0 then fail start "did not find expected version number"
  return value

/-- Read a directive line: `%YAML major.minor` or `%TAG handle prefix`, then an optional
comment. -/
def scanDirective : Scan Token := do
  let start ← pos
  skip
  let name ← takeWhile YamlChar.isWordChar ""
  if name.isEmpty then fail start "could not find expected directive name"
  if !YamlChar.isSpaceOrEnd (← here) then fail start "found unexpected non-alphabetical character"
  let kind ← if name == "YAML" then do
      skipWhile YamlChar.isBlank
      let major ← scanVersionNumber start
      if (← here) != '.' then fail start "did not find expected digit or '.' character"
      skip
      let minor ← scanVersionNumber start
      pure (TokenKind.versionDirective major minor)
    else if name == "TAG" then do
      skipWhile YamlChar.isBlank
      let handle ← scanTagHandle true start
      if !YamlChar.isBlank (← here) then fail start "did not find expected whitespace"
      skipWhile YamlChar.isBlank
      let uri ← scanTagUri "" start
      if !YamlChar.isSpaceOrEnd (← here) then fail start "did not find expected whitespace or line break"
      pure (TokenKind.tagDirective handle uri)
    else fail start "found unknown directive name"
  let stop ← pos
  skipWhile YamlChar.isBlank
  if (← here) == '#' then skipWhile fun c => !YamlChar.isBreakOrEnd c
  if !YamlChar.isBreakOrEnd (← here) then fail start "did not find expected comment or line break"
  if YamlChar.isBreak (← here) then skipLine
  return ⟨kind, start, stop⟩

/-! ## Fetching tokens -/

/-- Move past blanks, comments and line breaks to the next token; a line break in block context
lets a simple key start. A tab may not be passed over where a simple key may start in block
context, and a byte order mark may start any line. -/
def skipToToken : Scan Unit := do
  for _ in [0:(← get).budget] do
    let s ← get
    if s.mark.column == 0 && s.ch 0 == '﻿' then skip
    for _ in [0:(← get).budget] do
      let s ← get
      if s.ch 0 == ' ' || ((s.flowLevel > 0 || !s.keyAllowed) && s.ch 0 == '\t') then skip
      else break
    if (← here) == '#' then skipWhile fun c => !YamlChar.isBreakOrEnd c
    if YamlChar.isBreak (← here) then
      skipLine
      modify fun s => if s.flowLevel == 0 then { s with keyAllowed := true } else s
    else break

/-- Queue the end of the stream, ending every block collection. -/
def fetchStreamEnd : Scan Unit := do
  modify fun s => if s.mark.column != 0 then
      { s with mark := { s.mark with column := 0, line := s.mark.line + 1 } }
    else s
  unrollIndent (-1) (← pos)
  removeKey
  modify fun s => { s with keyAllowed := false }
  let m ← pos
  push ⟨.streamEnd, m, m⟩

/-- Queue a directive, ending every block collection. -/
def fetchDirective : Scan Unit := do
  unrollIndent (-1) (← pos)
  removeKey
  modify fun s => { s with keyAllowed := false }
  push (← scanDirective)

/-- Queue a document marker (`---` or `...`), ending every block collection. -/
def fetchDocumentIndicator (kind : TokenKind) : Scan Unit := do
  unrollIndent (-1) (← pos)
  removeKey
  modify fun s => { s with keyAllowed := false }
  let start ← pos
  skip
  skip
  skip
  push ⟨kind, start, ← pos⟩

/-- Queue the start of a flow collection, which may be a simple key. -/
def fetchFlowStart (kind : TokenKind) : Scan Unit := do
  saveKey
  enterFlow
  modify fun s => { s with keyAllowed := true }
  pushIndicator kind

def fetchFlowEnd (kind : TokenKind) : Scan Unit := do
  removeKey
  leaveFlow
  modify fun s => { s with keyAllowed := false }
  pushIndicator kind

/-- Queue a comma between flow entries. -/
def fetchFlowEntry : Scan Unit := do
  removeKey
  modify fun s => { s with keyAllowed := true }
  pushIndicator .flowEntry

/-- Queue a block sequence entry, starting a sequence at its column if needed. -/
def fetchBlockEntry : Scan Unit := do
  let s ← get
  if s.flowLevel == 0 then
    if !s.keyAllowed then fail s.mark "block sequence entries are not allowed in this context"
    rollIndent s.mark.column none .blockSequenceStart s.mark
  removeKey
  modify fun s => { s with keyAllowed := true }
  pushIndicator .blockEntry

/-- Queue an explicit key (`?`), starting a mapping at its column if needed. -/
def fetchKey : Scan Unit := do
  let s ← get
  if s.flowLevel == 0 then
    if !s.keyAllowed then fail s.mark "mapping keys are not allowed in this context"
    rollIndent s.mark.column none .blockMappingStart s.mark
  removeKey
  modify fun s => { s with keyAllowed := s.flowLevel == 0 }
  pushIndicator .key

/-- Queue a value indicator (`:`). After a possible simple key it puts the key token (and the
start of a mapping at the key's column, if needed) before the key; otherwise the value follows
an explicit key or none. -/
def fetchValue : Scan Unit := do
  let s ← get
  let i := s.keys.size - 1
  if ← keyStillPossible i then
    let s ← get
    let k := s.keys.getD i {}
    insert (k.number - s.taken) ⟨.key, k.mark, k.mark⟩
    rollIndent k.mark.column (some k.number) .blockMappingStart k.mark
    modify fun s =>
      { s with
        keys := s.keys.modify i fun k => { k with possible := false }
        keyTokens := forgetToken k.number s.keyTokens
        keyAllowed := false }
  else
    let s ← get
    if s.flowLevel == 0 then
      if !s.keyAllowed then fail s.mark "mapping values are not allowed in this context"
      rollIndent s.mark.column none .blockMappingStart s.mark
    modify fun s => { s with keyAllowed := s.flowLevel == 0 }
  pushIndicator .value

/-- Queue a token that may be a simple key and after which none may start. -/
def fetchKeyLike (scan : Scan Token) : Scan Unit := do
  saveKey
  modify fun s => { s with keyAllowed := false }
  push (← scan)

/-- Queue a block scalar, after which a simple key may start. -/
def fetchBlock (literal : Bool) : Scan Unit := do
  removeKey
  modify fun s => { s with keyAllowed := true }
  push (← scanBlock literal)

/-- Whether a character may start a plain scalar whatever follows it. -/
def startsPlain (c : Char) : Bool :=
  !(YamlChar.isSpaceOrEnd c || c == '-' || c == '?' || c == ':' || c == ',' || c == '[' || c == ']' ||
    c == '\x7b' || c == '\x7d' || c == '#' || c == '&' || c == '*' || c == '!' || c == '|' ||
    c == '>' || c == '\'' || c == '"' || c == '%' || c == '@' || c == '`')

/-- Cut the next token (or tokens: a key and the collection starts and ends placed with it),
or queue the stream start first. -/
def fetchNext : Scan Unit := do
  if !(← get).started then
    modify fun s =>
      { s with
        indent := -1
        keys := s.keys.push {}
        keyTokens := []
        keyAllowed := true
        started := true
        queue := s.queue.push ⟨.streamStart, s.mark, s.mark⟩ }
    return
  let scanMark ← pos
  skipToToken
  unrollIndent ((← pos).column : Int) scanMark
  let s ← get
  let c := s.ch 0
  let next := s.ch 1
  if YamlChar.isEnd c then fetchStreamEnd
  else if s.mark.column == 0 && c == '%' then fetchDirective
  else if s.atDocumentIndicator && c == '-' then fetchDocumentIndicator .documentStart
  else if s.atDocumentIndicator then fetchDocumentIndicator .documentEnd
  else if c == '[' then fetchFlowStart .flowSequenceStart
  else if c == '\x7b' then fetchFlowStart .flowMappingStart
  else if c == ']' then fetchFlowEnd .flowSequenceEnd
  else if c == '\x7d' then fetchFlowEnd .flowMappingEnd
  else if c == ',' then fetchFlowEntry
  else if c == '-' && YamlChar.isSpaceOrEnd next then fetchBlockEntry
  else if c == '?' && (s.flowLevel > 0 || YamlChar.isSpaceOrEnd next) then fetchKey
  else if c == ':' && (s.flowLevel > 0 || YamlChar.isSpaceOrEnd next) then fetchValue
  else if c == '*' then fetchKeyLike (scanAnchor true)
  else if c == '&' then fetchKeyLike (scanAnchor false)
  else if c == '!' then fetchKeyLike scanTag
  else if c == '|' && s.flowLevel == 0 then fetchBlock true
  else if c == '>' && s.flowLevel == 0 then fetchBlock false
  else if c == '\'' then fetchKeyLike (scanQuoted true)
  else if c == '"' then fetchKeyLike (scanQuoted false)
  else if startsPlain c || (c == '-' && !YamlChar.isBlank next) ||
      (s.flowLevel == 0 && (c == '?' || c == ':') && !YamlChar.isSpaceOrEnd next) then
    fetchKeyLike scanPlain
  else fail s.mark "found character that cannot start any token"

/-- Cut tokens until the queue holds at least three and its head can no longer become a
key. -/
def fill : Scan Unit := do
  for _ in [0:(← get).budget] do
    let s ← get
    if s.queue.size > 2 then
      match s.keyTokens.lookup s.taken with
      | none => break
      | some i => if !(← keyStillPossible i) then break
    fetchNext

/-- The token at the head of the queue. -/
def peekToken : Scan Token := do
  if !(← get).ready then
    fill
    modify fun s => { s with ready := true }
  let s ← get
  return s.queue.getD 0 ⟨.streamEnd, s.mark, s.mark⟩

/-- Hand on the token at the head of the queue. -/
def skipToken : Scan Unit := modify fun s =>
  { s with ready := false, taken := s.taken + 1, queue := s.queue.extract 1 s.queue.size }

end Scanner

end TradeLedger
