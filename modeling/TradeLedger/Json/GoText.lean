import TradeLedger.Json.Value
/-!
# JSON text for web clients

Text that may end up in a web page is written with the characters that could break out of a
script escaped as well: `<`, `>` and `&`, and the line and paragraph separators U+2028 and
U+2029. Members are written in the order given, with no blanks.

## Main definitions

* `renderWeb`, `renderIndented`: compact and indented text for web clients.
-/

namespace TradeLedger

namespace Json

/-- The web-safe escaped form of one character inside a string. -/
def escapeWeb (c : Char) : String :=
  if c == '"' then "\\\""
  else if c == '\\' then "\\\\"
  else if c == '\n' then "\\n"
  else if c == '\r' then "\\r"
  else if c == '\t' then "\\t"
  else if c.toNat == 8 then "\\b"
  else if c.toNat == 12 then "\\f"
  else if c.toNat < 32 || c == '<' || c == '>' || c == '&' then "\\u00" ++ hexDigits 2 c.toNat
  else if c.toNat == 0x2028 || c.toNat == 0x2029 then "\\u" ++ hexDigits 4 c.toNat
  else String.singleton c

/-- A string between double quotes, escaped for the web. -/
def quoteWeb (s : String) : String := "\"" ++ String.join (s.toList.map escapeWeb) ++ "\""

mutual
/-- The compact web-safe text of a value. -/
def renderWeb : Json → String
  | .null => "null"
  | .bool b => if b then "true" else "false"
  | .num t => t
  | .str s => quoteWeb s
  | .arr items => "[" ++ commaJoin (renderWebList items) ++ "]"
  | .obj fields => "\x7b" ++ commaJoin (renderWebFields fields) ++ "\x7d"

/-- The texts of a list of values. -/
def renderWebList : List Json → List String
  | [] => []
  | j :: rest => renderWeb j :: renderWebList rest

/-- The texts of object members. -/
def renderWebFields : List (String × Json) → List String
  | [] => []
  | (k, v) :: rest => (quoteWeb k ++ ":" ++ renderWeb v) :: renderWebFields rest
end

mutual
/-- The web-safe text of a value laid out one member or item a line, each nested level indented
by two more blanks than `margin`; an empty object or array stays on its line. -/
def renderIndented (margin : String) : Json → String
  | .arr [] => "[]"
  | .obj [] => "\x7b\x7d"
  | .arr items =>
    "[\n" ++ String.intercalate ",\n" (renderIndentedList (margin ++ "  ") items) ++ "\n" ++
      margin ++ "]"
  | .obj fields =>
    "\x7b\n" ++ String.intercalate ",\n" (renderIndentedFields (margin ++ "  ") fields) ++ "\n" ++
      margin ++ "\x7d"
  | j => renderWeb j

/-- The indented texts of items, each after its margin. -/
def renderIndentedList (margin : String) : List Json → List String
  | [] => []
  | j :: rest => (margin ++ renderIndented margin j) :: renderIndentedList margin rest

/-- The indented texts of members, each after its margin. -/
def renderIndentedFields (margin : String) : List (String × Json) → List String
  | [] => []
  | (k, v) :: rest =>
    (margin ++ quoteWeb k ++ ": " ++ renderIndented margin v) :: renderIndentedFields margin rest
end

end Json

end TradeLedger
