import TradeLedger.Json.Value
import TradeLedger.Number.Read
import TradeLedger.Text.Quote
import TradeLedger.Time.Instant
/-!
# Reading command arguments

Commands arrive as JSON objects. An argument that is missing or `null` takes its zero value. A
float argument is a JSON number or a numeral string read by `readFloat`, an integer one a JSON
integer or a decimal string read by `readInt64`. An argument that does not read makes the
command a bad request naming the argument.

## Main definitions

* `Input`: reading arguments, failing with the request's error.
* `Input.float`, `Input.int`, `Input.text`: the arguments of each kind.
-/

namespace TradeLedger

/-- Decoding a request: a value, or the message of a bad request. -/
abbrev Input := Except String

namespace Input

/-- An argument, absent when missing or `null`. -/
def arg? (j : Json) (key : String) : Option Json :=
  match j.field? key with
  | some .null => none
  | other => other

/-- Refuse an argument with a reason. -/
def refuse {α : Type} (key reason : String) : Input α :=
  .error ("field " ++ quoteText key ++ ": " ++ reason)

/-- The text a numeric argument is read from. -/
def numeralText : Json → String
  | .num t => t
  | .str s => s
  | other => other.render

def float (j : Json) (key : String) : Input Float :=
  match arg? j key with
  | none => pure 0
  | some v =>
    match readFloatText (numeralText v) with
    | .ok x => pure x
    | .error f => refuse key f.message

/-- An integer argument. -/
def int (j : Json) (key : String) : Input Int :=
  match arg? j key with
  | none => pure 0
  | some v =>
    match readInt64Text (numeralText v) with
    | .ok x => pure x
    | .error f => refuse key f.message

/-- An integer argument with a default when missing. -/
def intOr (j : Json) (key : String) (default : Int) : Input Int :=
  match arg? j key with
  | none => pure default
  | some _ => int j key

/-- A natural-number argument: a negative value counts as zero. -/
def nat (j : Json) (key : String) : Input Nat := do
  let i ← int j key
  pure i.toNat

/-- An instant in milliseconds, unset when missing or `null` or when it is the zero
instant's milliseconds. -/
def time (j : Json) (key : String) : Input Instant :=
  match arg? j key with
  | none => pure none
  | some _ => do
    let t ← int j key
    pure (Instant.ofMs t)

/-- A duration argument in milliseconds, as nanoseconds. -/
def duration (j : Json) (key : String) : Input Duration := do
  pure (Duration.ofMs (← int j key))

def text (j : Json) (key : String) : Input String :=
  match arg? j key with
  | none => pure ""
  | some (.str s) => pure s
  | some v => refuse key ("expected a string, got " ++ v.render)

/-- A boolean argument. -/
def flag (j : Json) (key : String) : Input Bool :=
  match arg? j key with
  | none => pure false
  | some (.bool b) => pure b
  | some v => refuse key ("expected a boolean, got " ++ v.render)

/-- A list argument's items. -/
def list (j : Json) (key : String) : Input (List Json) :=
  match arg? j key with
  | none => pure []
  | some (.arr xs) => pure xs
  | some v => refuse key ("expected a list, got " ++ v.render)

/-- An object argument, the empty object when missing. -/
def object (j : Json) (key : String) : Input Json :=
  match arg? j key with
  | none => pure (.obj [])
  | some (.obj fs) => pure (.obj fs)
  | some v => refuse key ("expected an object, got " ++ v.render)

def texts (j : Json) (key : String) : Input (List String) := do
  let xs ← list j key
  xs.mapM fun
    | .str s => pure s
    | v => refuse key ("expected a string, got " ++ v.render)

/-- The members of an object argument. -/
def members (j : Json) (key : String) : Input (List (String × Json)) :=
  match arg? j key with
  | none => pure []
  | some (.obj fs) => pure fs
  | some v => refuse key ("expected an object, got " ++ v.render)

end Input

end TradeLedger
