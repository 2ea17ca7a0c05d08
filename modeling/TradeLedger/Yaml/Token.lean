/-!
# YAML tokens

A YAML text is first cut into tokens: the indicators of its structure (the starts and ends of
collections, entries, keys and values, document markers and directives) and the pieces of
content between them (scalars, anchors, aliases and tags), each with where it starts and stops.

## Main definitions

* `Token`, `TokenKind`: tokens and their kinds.
-/

namespace TradeLedger

/-- A place in a YAML text: the number of characters before it, and its row and column, all
counted from zero. -/
structure Mark where
  index : Nat := 0
  line : Nat := 0
  column : Nat := 0
  deriving Repr, Inhabited, DecidableEq

/-- How a scalar is written: plain, in single or double quotes, or as a literal or folded
block. -/
inductive ScalarStyle where
  | plain
  | singleQuoted
  | doubleQuoted
  | literal
  | folded
  deriving Repr, Inhabited, DecidableEq

inductive TokenKind where
  | streamStart
  | streamEnd
  /-- `%YAML major.minor` -/
  | versionDirective (major minor : Nat)
  /-- `%TAG handle uri` -/
  | tagDirective (handle uri : String)
  | documentStart
  | documentEnd
  | blockSequenceStart
  | blockMappingStart
  | blockEnd
  | flowSequenceStart
  | flowSequenceEnd
  | flowMappingStart
  | flowMappingEnd
  | blockEntry
  | flowEntry
  | key
  | value
  /-- `*name`, a reference to an anchored node -/
  | reference (name : String)
  /-- `&name` -/
  | anchor (name : String)
  /-- `!handle!suffix`, or a verbatim tag with an empty handle -/
  | tag (handle suffix : String)
  | scalar (text : String) (style : ScalarStyle)
  deriving Repr, Inhabited, DecidableEq

/-- A token with the places where it starts and stops. -/
structure Token where
  kind : TokenKind
  start : Mark
  stop : Mark
  deriving Repr, Inhabited

namespace YamlChar

/-- A line break: carriage return, line feed, next line, or the line and paragraph
separators. -/
def isBreak (c : Char) : Bool :=
  c == '\r' || c == '\n' || c == '\x85' || c == '\u2028' || c == '\u2029'

/-- A blank: a space or a tab. -/
def isBlank (c : Char) : Bool := c == ' ' || c == '\t'

/-- The end of the text, which reads as a NUL character. -/
def isEnd (c : Char) : Bool := c == '\x00'

/-- A line break or the end of the text. -/
def isBreakOrEnd (c : Char) : Bool := isBreak c || isEnd c

/-- A blank, a line break or the end of the text. -/
def isSpaceOrEnd (c : Char) : Bool := isBlank c || isBreakOrEnd c

/-- A character of a name (of an anchor, a directive or a tag handle): an ASCII letter or
digit, an underscore or a dash. -/
def isWordChar (c : Char) : Bool :=
  ('0' ≤ c && c ≤ '9') || ('A' ≤ c && c ≤ 'Z') || ('a' ≤ c && c ≤ 'z') || c == '_' || c == '-'

/-- A character that may be written in a tag's URI. -/
def isUriChar (c : Char) : Bool :=
  isWordChar c || ";/?:@&=+$,.!~*'()[]%".contains c

/-- The value of a hexadecimal digit, if it is one. -/
def hexValue? (c : Char) : Option Nat :=
  if '0' ≤ c && c ≤ '9' then some (c.toNat - 48)
  else if 'a' ≤ c && c ≤ 'f' then some (c.toNat - 87)
  else if 'A' ≤ c && c ≤ 'F' then some (c.toNat - 55)
  else none

/-- Whether a character may stand in a YAML text: a tab, a line feed, a carriage return, a
printable ASCII character, next line, or a code point above the Latin-1 controls other than a
surrogate and the two non-characters at the end of the basic plane. -/
def isYamlText (c : Char) : Bool :=
  let n := c.toNat
  n == 0x09 || n == 0x0A || n == 0x0D || (0x20 ≤ n && n ≤ 0x7E) || n == 0x85 ||
    (0xA0 ≤ n && n ≤ 0xD7FF) || (0xE000 ≤ n && n ≤ 0xFFFD) || (0x10000 ≤ n && n ≤ 0x10FFFF)

end YamlChar

end TradeLedger
