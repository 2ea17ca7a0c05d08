import TradeLedger.Trade.Basic
import TradeLedger.Time.Instant
import TradeLedger.Text.Fold
/-!
# Matching a trade to the venue's closed positions

A closed trade is matched to the record whose open and close times are nearest to the trade's,
within a tolerance. Candidates are ranked by the distance of the close times, then of the open
times, then by agreement of the sides, the difference of the sizes, and the close id. Distances
are durations in nanoseconds that saturate at the 64-bit range.

## Main definitions

* `MatchRank`, `rankOf`: the rank of a record for a trade.
* `bestMatch`: the record of least rank.
-/

namespace TradeLedger

/-- One closed position as reported by the venue's history. `side` is `LONG`, `SHORT`, or
empty when the venue does not say. -/
structure Record where
  closeId : String := ""
  symbol : String := ""
  side : String := ""
  openTime : Instant := none
  closeTime : Instant := none
  openPrice : Float := 0
  closePrice : Float := 0
  size : Float := 0
  realizedPnl : Float := 0
  hasRealized : Bool := false
  fee : Float := 0
  funding : Float := 0
  hasFunding : Bool := false
  deriving Repr, Inhabited

/-- How far a record's open and close times may be from a trade's. -/
structure Tolerance where
  opening : Duration
  closing : Duration
  deriving Repr, Inhabited

namespace Tolerance

/-- Two minutes on the open, fifteen on the close. -/
def strict : Tolerance := ⟨Duration.ofMs 120000, Duration.ofMs 900000⟩

/-- Ten minutes on the open, an hour on the close. -/
def relaxed : Tolerance := ⟨Duration.ofMs 600000, Duration.ofMs 3600000⟩

end Tolerance

/-- A record's side agrees with a trade's unless both are long or short and they differ. The
record's side is compared in upper case. -/
def sidesAgree (trade : TradeSide) (record : String) : Bool :=
  let r := String.toUpperSimple record
  if r != "LONG" && r != "SHORT" then true
  else if !trade.valid then true
  else r == trade.text

/-- The rank of a candidate record; smaller is better. -/
structure MatchRank where
  closeDelta : Duration
  openDelta : Duration
  sideMismatch : Bool
  sizeDiff : Float
  closeId : String

/-- Lexicographic order of ranks. Sizes compare as floats, so a NaN difference is neither
smaller nor larger than any other and the comparison falls through to nothing. -/
def MatchRank.less (s o : MatchRank) : Bool :=
  if s.closeDelta != o.closeDelta then s.closeDelta < o.closeDelta
  else if s.openDelta != o.openDelta then s.openDelta < o.openDelta
  else if s.sideMismatch != o.sideMismatch then !s.sideMismatch
  else if s.sizeDiff != o.sizeDiff then s.sizeDiff < o.sizeDiff
  else s.closeId < o.closeId

/-- The rank of a record for a trade, when the record is a candidate: it has a usable close
id, its symbol (when given) equals the trade's up to case, and its times are in range. -/
def rankOf (t : Trade) (tol : Tolerance) (usable : String → Bool) (r : Record) :
    Option MatchRank :=
  if r.closeId == "" || !usable r.closeId then none
  else if r.symbol != "" && !String.equalFold r.symbol t.symbol then none
  else
    let openDelta := Duration.abs (Instant.sub r.openTime t.createdAt)
    let closeDelta := Duration.abs (Instant.sub r.closeTime t.closedAt)
    if tol.opening < openDelta || tol.closing < closeDelta then none
    else some ⟨closeDelta, openDelta, !sidesAgree t.side r.side, (r.size - t.size).abs, r.closeId⟩

/-- The best candidate of `records` for the trade: the first of the smallest rank. -/
def bestMatch (t : Trade) (records : List Record) (tol : Tolerance) (usable : String → Bool) :
    Option Record :=
  let step (best : Option (Record × MatchRank)) (r : Record) : Option (Record × MatchRank) :=
    match rankOf t tol usable r, best with
    | none, _ => best
    | some k, none => some (r, k)
    | some k, some (b, bk) => if k.less bk then some (r, k) else some (b, bk)
  (records.foldl step none).map Prod.fst

end TradeLedger
