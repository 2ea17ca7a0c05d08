/-!
# Faults

An operation that fails answers a fault: a text, and the kind of failure it stems from. A fault
keeps its kind when a caller prefixes its text, so the kind of the final text is that of its
innermost cause; of several causes, the first kind in `FaultKind.priority` wins. A computation
that stops outright is a fault of its own kind that travels up unchanged.

## Main definitions

* `Fault`, `Fault.wrap`: a fault, and one with context prefixed.
-/

namespace TradeLedger

/-- The kinds of failure. -/
inductive FaultKind where
  | conflictCheckUnavailable
  | invalidTrade
  | notAdmissible
  | noPosition
  | staleWrite
  | notFound
  | traderIdRequired
  | runInProgress
  | invalidTransition
  | malformed
  | invalidEvent
  | listenKeyRejected
  | streamFatal
  | plain
  | panic
  deriving Repr, DecidableEq, Inhabited

namespace FaultKind

/-- The name of a kind in answers. -/
def name : FaultKind → String
  | .conflictCheckUnavailable => "conflict_check_unavailable"
  | .invalidTrade => "invalid_trade"
  | .notAdmissible => "not_admissible"
  | .noPosition => "no_position"
  | .staleWrite => "stale_write"
  | .notFound => "not_found"
  | .traderIdRequired => "trader_id_required"
  | .runInProgress => "run_in_progress"
  | .invalidTransition => "invalid_transition"
  | .malformed => "malformed"
  | .invalidEvent => "invalid_event"
  | .listenKeyRejected => "listen_key_rejected"
  | .streamFatal => "stream_fatal"
  | .plain => "error"
  | .panic => "panic"

/-- The precedence of kinds, highest first. -/
def priority (k : FaultKind) : Nat :=
  match k with
  | .conflictCheckUnavailable => 0
  | .invalidTrade => 1
  | .notAdmissible => 2
  | .noPosition => 3
  | .staleWrite => 4
  | .notFound => 5
  | .traderIdRequired => 6
  | .runInProgress => 7
  | .invalidTransition => 8
  | .malformed => 9
  | .invalidEvent => 10
  | .listenKeyRejected => 11
  | .streamFatal => 12
  | .plain => 13
  | .panic => 14

/-- The kind of higher precedence. -/
def first (a b : FaultKind) : FaultKind := if b.priority < a.priority then b else a

end FaultKind

/-- A failure: its kind and its text. -/
structure Fault where
  kind : FaultKind := .plain
  text : String
  deriving Repr, Inhabited

namespace Fault

/-- A failure of no particular kind. -/
def plain (text : String) : Fault := { text := text }

/-- A computation that stopped outright; no caller adds context to it. -/
def panic (text : String) : Fault := { kind := .panic, text := text }

/-- Prefix context to a fault's text, keeping its kind. A stop is passed on unchanged. -/
def wrap (context : String) (f : Fault) : Fault :=
  if f.kind == .panic then f else { f with text := context ++ f.text }

/-- Several causes gathered one after another: texts joined by `; `, the kind of highest
precedence. -/
def append (a b : Fault) : Fault :=
  { kind := a.kind.first b.kind, text := a.text ++ "; " ++ b.text }

/-- Several causes at once: texts on separate lines, the kind of highest precedence. -/
def join (a b : Fault) : Fault := { kind := a.kind.first b.kind, text := a.text ++ "\n" ++ b.text }

end Fault

end TradeLedger
