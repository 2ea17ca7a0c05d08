import TradeLedger.Json.Value
/-!
# Notifications

A notification tells an operator about something that needs attention: a level, the part of the
service it comes from, a title, a message, and named fields.

## Main definitions

* `Note`, `NoteLevel`: a notification and its level.
-/

namespace TradeLedger

/-- How urgent a notification is. -/
inductive NoteLevel where
  | info
  | warning
  | critical
  | other (text : String)
  deriving Repr, DecidableEq, Inhabited

namespace NoteLevel

/-- The level's name. -/
def text : NoteLevel → String
  | .info => "info"
  | .warning => "warning"
  | .critical => "critical"
  | .other t => t

/-- The level named `t`. -/
def ofText (t : String) : NoteLevel :=
  match t with
  | "info" => .info
  | "warning" => .warning
  | "critical" => .critical
  | _ => .other t

end NoteLevel

/-- One notification; `time` is unset until a sender stamps it. -/
structure Note where
  level : NoteLevel := .info
  source : String := ""
  title : String := ""
  message : String := ""
  fields : List (String × Json) := []
  time : Option Int := none
  deriving Inhabited

end TradeLedger
