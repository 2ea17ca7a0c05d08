/-!
# Account balances

The latest account snapshot, merged asset by asset. A snapshot stamped earlier than the newest
applied one is ignored, unless its stamp is not positive; rows without an asset are skipped.

## Main definitions

* `Balances.apply`: merging a snapshot.
-/

namespace TradeLedger

structure AssetBalance where
  asset : String := ""
  free : Float := 0
  locked : Float := 0
  deriving Repr, Inhabited

/-- Free plus locked. -/
def AssetBalance.total (a : AssetBalance) : Float := a.free + a.locked

/-- The merged balances and the stamp of the newest applied snapshot. -/
structure Balances where
  assets : List AssetBalance := []
  eventTime : Int := 0
  synced : Bool := false
  deriving Repr, Inhabited

namespace Balances

/-- Merge one row: a row without an asset name is skipped, and a named row replaces the line
of its asset, or is added after the others. -/
def mergeRow (acc : List AssetBalance) (a : AssetBalance) : List AssetBalance :=
  if a.asset == "" then acc
  else match acc.find? (·.asset == a.asset) with
    | some _ => acc.map fun x => if x.asset == a.asset then a else x
    | none => acc ++ [a]

/-- Merge a snapshot stamped `eventTime`; whether it was applied. -/
def apply (b : Balances) (eventTime : Int) (rows : List AssetBalance) : Balances × Bool :=
  if 0 < eventTime ∧ eventTime < b.eventTime then (b, false)
  else
    ({ assets := rows.foldl mergeRow b.assets, eventTime := max eventTime b.eventTime,
       synced := true }, true)

/-- The balance of an asset. -/
def get? (b : Balances) (asset : String) : Option AssetBalance := b.assets.find? (·.asset == asset)

/-- Every asset, sorted by name. -/
def snapshot (b : Balances) : List AssetBalance :=
  b.assets.mergeSort fun x y => decide (x.asset ≤ y.asset)

end Balances

end TradeLedger
