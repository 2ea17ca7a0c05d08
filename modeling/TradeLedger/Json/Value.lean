import TradeLedger.Number.Text
import TradeLedger.Text.Quote
/-!
# JSON values

Requests come in as JSON, answers go out as JSON, and frames from the venue are JSON too. A
number is kept as its JSON text, so integers of any size and the exact digits of a float survive,
and a reader decides what the text means. Writing is compact: no blanks, members in the order
given.

## Main definitions

* `Json`, `Json.render`: a value and its text.
-/

namespace TradeLedger

/-- A JSON value; a number is held as its JSON text. -/
inductive Json where
  | null
  | bool (b : Bool)
  | num (text : String)
  | str (s : String)
  | arr (items : List Json)
  | obj (fields : List (String × Json))
  deriving Repr, Inhabited

namespace Json

/-- The escaped form of one character inside a JSON string. -/
def escapeChar (c : Char) : String :=
  if c == '"' then "\\\""
  else if c == '\\' then "\\\\"
  else if c == '\n' then "\\n"
  else if c == '\r' then "\\r"
  else if c == '\t' then "\\t"
  else if c.toNat < 32 then "\\u" ++ hexDigits 4 c.toNat
  else String.singleton c

/-- A string between double quotes, escaped. -/
def quote (s : String) : String :=
  "\"" ++ String.join (s.toList.map escapeChar) ++ "\""

/-- Join texts with commas. -/
def commaJoin (parts : List String) : String := String.intercalate "," parts

mutual
/-- The compact text of a value. -/
def render : Json → String
  | .null => "null"
  | .bool b => if b then "true" else "false"
  | .num t => t
  | .str s => quote s
  | .arr items => "[" ++ commaJoin (renderList items) ++ "]"
  | .obj fields => "\x7b" ++ commaJoin (renderFields fields) ++ "\x7d"

/-- The texts of the items of an array. -/
def renderList : List Json → List String
  | [] => []
  | j :: rest => render j :: renderList rest

/-- The texts of the members of an object. -/
def renderFields : List (String × Json) → List String
  | [] => []
  | (k, v) :: rest => (quote k ++ ":" ++ render v) :: renderFields rest
end

/-- A float as a JSON number; NaN and the infinities, which JSON cannot write, as the texts
`NaN`, `+Inf` and `-Inf`. -/
def ofFloat (x : Float) : Json :=
  match Float.toJsonText? x with
  | some t => .num t
  | none => .str (Binary64.fixedText 0 (Binary64.ofFloat x))

/-- An integer as a JSON number. -/
def ofInt (i : Int) : Json := .num (toString i)

/-- A natural number as a JSON number. -/
def ofNat (n : Nat) : Json := .num (toString n)

/-- An instant in milliseconds, or `null` when unset. -/
def ofTime : Option Int → Json
  | some t => ofInt t
  | none => .null

/-- A list of texts. -/
def ofStrings (xs : List String) : Json := .arr (xs.map .str)

/-- The value of the first member named `key` of an object. -/
def field? (j : Json) (key : String) : Option Json :=
  match j with
  | .obj fields => fields.lookup key
  | _ => none

/-- Whether a value is `null`. -/
def isNull : Json → Bool
  | .null => true
  | _ => false

end Json

end TradeLedger
