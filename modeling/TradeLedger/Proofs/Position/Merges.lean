import TradeLedger.Proofs.Position.Session
/-!
# A merge left half done

A merge writes twice: the primary absorbs the new trade's size and records it, then the new
trade is marked merged. If the second write fails, the trade is absorbed but still pending, and
admitting it again absorbs it twice.

## Main definitions

* `mergeDesk`, `failingMarkDesk`: a desk ready to merge, with and without a failing mark.

## Theorems

* `failed_mark_leaves_merge_half_done`: a failed mark leaves the merge half done.
-/

namespace TradeLedger

/-- A long trade on BTC admitted, and a second long trade on BTC, of two units, created. -/
def mergeSession : List Request :=
  [.create "" (sampleTrade "p" "BTC" .long), .admitById "p",
    .create "" { sampleTrade "n" "BTC" .long with size := 2 }]

/-- The desk the session leaves, with no failure staged. -/
def mergeDesk : Desk := { (Request.session mergeSession { now := none }).1 with plan := {} }

/-- The same desk with the mark of a merge failing once. -/
def failingMarkDesk : Desk :=
  { mergeDesk with plan := ({} : FaultPlan).stage .markMerged { error := "boom", times := 1, skip := 0 } }

open Desk in
/-- With the mark failing once, admitting `n` fails after `p` has absorbed it: `p` has grown from
one unit to three, and `n` is still pending, so admitting it again absorbs it a second time and
`p` holds five units. -/
theorem failed_mark_leaves_merge_half_done :
    (exec (admitTrade "n") failingMarkDesk).1.isOk = false ∧
      (((failingMarkDesk.store.find? "p").map (·.trade.size)) == some 1) = true ∧
      ((((exec (admitTrade "n") failingMarkDesk).2.store.find? "p").map (·.trade.size)) ==
        some 3) = true ∧
      ((exec (admitTrade "n") failingMarkDesk).2.store.find? "n").map (·.trade.status) =
        some .pending ∧
      ((((exec (admitTrade "n") (exec (admitTrade "n") failingMarkDesk).2).2.store.find? "p").map
        (·.trade.size)) == some 5) = true := by
  decide +kernel

end TradeLedger
