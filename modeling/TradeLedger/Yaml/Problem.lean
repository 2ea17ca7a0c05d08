/-!
# What can be wrong with a YAML text

A YAML text is refused because it is not well-formed, or because its values do not fit the
record they are read into. A reader names the row of a problem's context unless that is the
first row, else the row where the problem was found unless that is the first row too, else no
row. Rows count from zero; a problem found while cutting the text into tokens is named one row
further on.

## Main definitions

* `YamlProblem`: the problems, with `text` giving the message.
-/

namespace TradeLedger

/-- What is wrong with a YAML text: it is malformed (with the line a reader names, if it names
one), or values in it do not fit where they go. -/
inductive YamlProblem where
  | malformed (line : Option Nat) (message : String)
  | misfit (errors : List String)
  deriving Repr, Inhabited, DecidableEq

namespace YamlProblem

/-- The line a reader names for a problem: the row of its context unless that is the first row,
else the row where it was found unless that is the first row too; a problem found while cutting
tokens is named one row further on. -/
def reportedLine (cutting : Bool) (context found : Nat) : Option Nat :=
  let shift := if cutting then 1 else 0
  if context != 0 then some (context + shift)
  else if found != 0 then some (found + shift)
  else none

/-- A problem found while cutting the text into tokens. -/
def cutting (context found : Nat) (message : String) : YamlProblem :=
  .malformed (reportedLine true context found) message

/-- A problem found while assembling tokens into nodes. -/
def assembling (context found : Nat) (message : String) : YamlProblem :=
  .malformed (reportedLine false context found) message

/-- A problem that names no line. -/
def refused (message : String) : YamlProblem := .malformed none message

/-- The message of a problem. -/
def text : YamlProblem → String
  | .malformed (some n) m => "yaml: line " ++ toString n ++ ": " ++ m
  | .malformed none m => "yaml: " ++ m
  | .misfit errors => "yaml: unmarshal errors:" ++ String.join (errors.map ("\n  " ++ ·))

end YamlProblem

end TradeLedger
