import TradeLedger.Position.Basic
import TradeLedger.Text.Case
/-!
# Position snapshots

A snapshot holds one trader's live trades grouped by symbol in upper case and side, oldest
first, so `btcusdt` and `BTCUSDT` trades form one position. Positions are listed by symbol and
then side.

## Main definitions

* `Snapshot`, `Snapshot.positions`: the groups and their positions.
-/

namespace TradeLedger

/-- The group of a symbol and side. -/
def groupKey (symbol : String) (side : TradeSide) : String :=
  String.toUpperSimple symbol ++ "|" ++ side.text

/-- Live trades grouped by symbol and side, each group oldest first. -/
structure Snapshot where
  groups : List (String × List Trade) := []
  deriving Repr, Inhabited

namespace Snapshot

def group (s : Snapshot) (key : String) : List Trade :=
  ((s.groups.find? (·.1 == key)).map (·.2)).getD []

/-- Add a trade to the end of its group. -/
def push (s : Snapshot) (t : Trade) : Snapshot :=
  let key := groupKey t.symbol t.side
  if (s.groups.find? (·.1 == key)).isSome then
    { groups := s.groups.map fun g => if g.1 == key then (g.1, g.2 ++ [t]) else g }
  else { groups := s.groups ++ [(key, [t])] }

/-- The snapshot of a trader's live trades, given oldest first. -/
def ofTrades (trades : List Trade) : Snapshot := trades.foldl push {}

/-- The position on a symbol and side without the trade `exclude`. -/
def position (s : Snapshot) (trader symbol : String) (side : TradeSide) (exclude : String) :
    Exact (Option Position) :=
  aggregate trader (s.group (groupKey symbol side)) exclude

/-- Whether position `a` is listed before `b`: by symbol, then by side. -/
def listedBefore (a b : Position) : Bool :=
  decide (a.symbol < b.symbol) || (a.symbol == b.symbol && decide (a.side.text ≤ b.side.text))

/-- Every position of the snapshot, by symbol and then side. -/
def positions (s : Snapshot) (trader : String) : Exact (List Position) := do
  let found ← s.groups.filterMapM fun g => aggregate trader g.2 ""
  pure (found.mergeSort listedBefore)

end Snapshot

end TradeLedger
