import TradeLedger.Time.Instant
import TradeLedger.Text.Case
/-!
# Cooldowns

A cooldown keeps new trades off a symbol until its end time. Entries live in scopes: the whole
symbol, one trader on a symbol, and the longer pause after a merge. Each scope holds at most one
entry per key: the scope, the symbol in upper case and, in the trader scope, the trader.

## Main definitions

* `Scope`, `Cooldown`: the scopes and an entry.
* `cooldownKey`: the text an entry is filed under.
-/

namespace TradeLedger

/-- The table a cooldown lives in. -/
inductive Scope where
  | symbol
  | symbolTrader
  | postMerge
  | other (text : String)
  deriving Repr, DecidableEq, Inhabited

namespace Scope

/-- The scope's name. -/
def text : Scope → String
  | .symbol => "symbol"
  | .symbolTrader => "symbol_trader"
  | .postMerge => "post_merge"
  | .other t => t

/-- The scope named `t`. -/
def ofText (t : String) : Scope :=
  match t with
  | "symbol" => .symbol
  | "symbol_trader" => .symbolTrader
  | "post_merge" => .postMerge
  | _ => .other t

/-- The order in which a check consults the scopes. -/
def checkOrder : List Scope := [.symbol, .symbolTrader, .postMerge]

end Scope

/-- The key of an entry: the scope, the upper-case symbol, and the trader for the trader
scope. -/
def cooldownKey (scope : Scope) (symbol trader : String) : String :=
  let symbol := String.toUpperSimple symbol
  if scope == .symbolTrader then scope.text ++ ":" ++ symbol ++ ":" ++ trader
  else scope.text ++ ":" ++ symbol

/-- One cooldown entry. `remaining` is filled on reads. -/
structure Cooldown where
  scope : Scope := .other ""
  symbol : String := ""
  traderId : String := ""
  endTime : Instant := none
  duration : Duration := 0
  reason : String := ""
  remaining : Duration := 0
  deriving Repr, Inhabited

def Cooldown.key (c : Cooldown) : String := cooldownKey c.scope c.symbol c.traderId

/-- Whether an entry has ended at `now`. -/
def Cooldown.endedAt (c : Cooldown) (now : Instant) : Bool := !(now.toMs < c.endTime.toMs)

/-- The lengths used when a setter is given no positive length. -/
structure CooldownDefaults where
  symbol : Duration := 0
  trader : Duration := 0
  postMerge : Duration := 0
  deriving Repr, Inhabited

/-- A positive length, or the default. -/
def orDefault (d default : Duration) : Duration := if 0 < d then d else default

/-- The instant a duration after `t`, in whole milliseconds. -/
def Instant.addDuration (t : Instant) (d : Duration) : Instant :=
  Instant.ofMs (t.toMs + Duration.toMs d)

end TradeLedger
