import TradeLedger.Ledger.Desk
import TradeLedger.Time.DurationText
import TradeLedger.Text.Quote
/-!
# Admitting trades against open positions

A trader holds at most one position per symbol and side. A new trade where the trader holds a
position conflicts with it: on the same side it is merged into the position's primary, on the
other it is rejected; an operator may instead replace the position, closing its trades at the
mark price. While a cooldown is on, new trades on the symbol are rejected. Positions are read
from a cached per-trader snapshot; when it cannot be loaded, the failure policy admits without a
check or rejects.

## Main definitions

* `Desk.snapshot`: the trader's snapshot, with half-done merges repaired.
* `Desk.checkConflict`: the conflict a new trade meets.
* `Desk.processTrade`, `Desk.admitTrade`, `Desk.replace`: the admissions.
-/

namespace TradeLedger

/-- How a new trade relates to an open position. -/
inductive ConflictType where
  | sameSide
  | oppositeSide
  deriving Repr, DecidableEq, Inhabited

def ConflictType.text : ConflictType → String
  | .sameSide => "same_side"
  | .oppositeSide => "opposite_side"

/-- What is done with a new trade. -/
inductive Action where
  | allow
  | merge
  | reject
  | replace
  | cooldown
  | other (text : String)
  deriving Repr, DecidableEq, Inhabited

namespace Action

/-- The spelling of an action. -/
def text : Action → String
  | .allow => "ADMIT"
  | .merge => "MERGE"
  | .reject => "REJECT"
  | .replace => "REPLACE"
  | .cooldown => "COOLDOWN"
  | .other t => t

/-- The action spelled `t`. -/
def ofText (t : String) : Action :=
  match t with
  | "ADMIT" => .allow
  | "MERGE" => .merge
  | "REJECT" => .reject
  | "REPLACE" => .replace
  | "COOLDOWN" => .cooldown
  | _ => .other t

end Action

/-- A new trade that collides with an open position. -/
structure Conflict where
  newTradeId : String
  traderId : String
  symbol : String
  side : TradeSide
  existing : Position
  type : ConflictType
  action : Action
  deriving Repr, Inhabited

/-- A new trade as admission sees it. -/
structure NewTrade where
  tradeId : String := ""
  traderId : String := ""
  symbol : String := ""
  side : TradeSide := .other ""
  size : Float := 0
  entryPrice : Float := 0
  deriving Repr, Inhabited

namespace NewTrade

/-- The admission view of a stored trade. -/
def ofTrade (t : Trade) : NewTrade :=
  { tradeId := t.id, traderId := t.traderId, symbol := t.symbol, side := t.side,
    size := t.size, entryPrice := t.entryPrice }

/-- The failure of invalid trade data with one more cause. -/
def invalid (cause : Fault) : Fault :=
  Fault.join { kind := .invalidTrade, text := "invalid trade data" } cause

/-- Why a new trade cannot be admitted at all: the first of a missing id, trader or symbol,
or a side other than long or short. -/
def validate (nt : NewTrade) : Option Fault :=
  if nt.tradeId.isEmpty then some (invalid (Fault.plain "trade id is empty"))
  else if nt.traderId.isEmpty then some (invalid Store.traderRequired)
  else if nt.symbol.isEmpty then some (invalid (Fault.plain "symbol is empty"))
  else if !nt.side.valid then some (invalid (Fault.plain "side must be LONG or SHORT"))
  else none

end NewTrade

/-- What became of a new trade. -/
structure Outcome where
  tradeId : String
  action : Action
  status : TradeStatus := .other ""
  primaryTradeId : String := ""
  conflict : Option Conflict := none
  cooldown : Option Cooldown := none
  /-- admitted without a conflict check -/
  degraded : Bool := false
  reason : String := ""
  deriving Repr, Inhabited

/-- The mark price of a symbol: its own positive price, else its positive last price. -/
def markPrice (prices : PriceCache) (symbol : String) : Option Float :=
  match prices.get? symbol with
  | some p => if p > 0 then some p else lastPrice
  | none => lastPrice
where
  /-- The positive last price of the symbol. -/
  lastPrice : Option Float :=
    match prices.get? (lastPriceKey symbol) with
    | some p => if p > 0 then some p else none
    | none => none

/-- A position valued at a mark price, when one is known. -/
def Position.marked (p : Position) (mark : Option Float) : Position :=
  match mark with
  | none => p
  | some m =>
    let diff := m - p.entryPrice
    let diff := if p.side == .short then -diff else diff
    { p with markPrice := m, unrealizedPnl := diff * p.size }

namespace Desk

/-- The live cooldown of a symbol and trader, evicting ended ones. -/
def onCooldown (symbol trader : String) : DeskM (Option Cooldown) := do
  let d ← get
  let (t, c) := d.cooldowns.check d.now symbol trader
  set { d with cooldowns := t }
  pure c

/-- Set a cooldown lasting `len`, or the scope's default. -/
def setCooldown (scope : Scope) (symbol trader : String) (len : Duration) (reason : String) :
    DeskM Cooldown := do
  let d ← get
  let (t, c) := d.cooldowns.setFor d.now scope symbol trader len reason
  set { d with cooldowns := t }
  pure c

/-- Which trade absorbed each id, as recorded on the absorbing trades; a later record wins. -/
def absorbers (trades : List Trade) : List (String × String) :=
  trades.foldl (fun acc t => t.mergedTradeIds.foldl (fun acc id =>
    if id != t.id then (id, t.id) :: acc.filter (·.1 != id) else acc) acc) []

/-- Finish half-done merges: a live trade recorded as absorbed by another live trade of its
group is marked merged and left out. A failed mark is only noted. -/
def repairMerges (trades : List Trade) : DeskM (List Trade) := do
  let absorbedBy := absorbers trades
  if absorbedBy.isEmpty then return trades
  let now ← clock
  trades.filterM fun t => do
    match absorbedBy.lookup t.id, trades.reverse.find? (fun p => some p.id == absorbedBy.lookup t.id) with
    | some pid, some p =>
      if groupKey p.symbol p.side != groupKey t.symbol t.side then pure true
      else
        ignoring (change .markMerged fun s => s.markMerged now t.id pid ("repaired: absorbed by " ++ pid))
        pure false
    | _, _ => pure true

/-- A trader's snapshot: the cached one, or loaded, repaired and cached. -/
def snapshot (trader : String) : DeskM Snapshot := do
  match (← get).snapshots.lookup trader with
  | some s => pure s
  | none =>
    let trades ← within ("load live trades of " ++ trader ++ ": ") (read .listLive (·.live trader))
    let trades ← repairMerges trades
    let s := Snapshot.ofTrades trades
    modify fun d => { d with snapshots := (trader, s) :: d.snapshots.filter (·.1 != trader) }
    pure s

/-- The mark price of a symbol now. -/
def mark (symbol : String) : DeskM (Option Float) := do
  return markPrice (← get).prices symbol

/-- A trader's positions, by symbol and side, valued at mark prices. -/
def positions (trader : String) : DeskM (List Position) := do
  if trader.isEmpty then throw Store.traderRequired
  let snap ← snapshot trader
  let ps ← exact (snap.positions trader)
  let prices := (← get).prices
  pure (ps.map fun p => p.marked (markPrice prices p.symbol))

/-- The conflict of a new trade on a symbol and side: a position on the same side to merge
into, else one on the other side that rejects it. The new trade itself never counts. -/
def checkConflict (trader symbol : String) (side : TradeSide) (newId : String) :
    DeskM (Option Conflict) := do
  if trader.isEmpty then throw Store.traderRequired
  let snap ← snapshot trader
  let base : Conflict := { newTradeId := newId, traderId := trader, symbol := symbol, side := side,
                           existing := {}, type := .sameSide, action := .merge }
  match ← exact (snap.position trader symbol side newId) with
  | some pos => return some { base with existing := pos.marked (← mark pos.symbol) }
  | none =>
    match ← exact (snap.position trader symbol side.opposite newId) with
    | some pos => return some { base with existing := pos.marked (← mark pos.symbol),
                                          type := .oppositeSide, action := .reject }
    | none => return none

/-- Merge the new trade into the position's primary: the primary takes the combined size and
weighted entry, the new trade is marked merged, and the symbol cools down after the merge. -/
def merge (c : Conflict) (nt : NewTrade) : DeskM Outcome := do
  let now ← clock
  let pid := c.existing.primaryTradeId
  let primary ← within ("position: load primary " ++ pid ++ ": ") (read .getTrade (·.get pid))
  let (size, entry) ← exact (weightedEntry primary.size primary.entryPrice nt.size nt.entryPrice)
  within ("position: merge into " ++ primary.id ++ ": ")
    (change .applyMerge fun s => s.applyMerge now primary.id size entry nt.tradeId)
  let reason := "merged into " ++ primary.id
  match ← attempt (change .markMerged fun s => s.markMerged now nt.tradeId primary.id reason) with
  | .error f =>
    invalidate nt.traderId
    throw (f.wrap ("position: mark " ++ nt.tradeId ++ " merged: "))
  | .ok () => pure ()
  let cd ← setCooldown .postMerge nt.symbol "" 0 ("merged " ++ nt.tradeId ++ " into " ++ primary.id)
  invalidate nt.traderId
  tally fun m => { m with merges := m.merges + 1 }
  return { tradeId := nt.tradeId, action := .merge, status := .merged, primaryTradeId := primary.id,
           conflict := some c, reason := reason,
           cooldown := if 0 < cd.remaining then some cd else none }

/-- Reject the new trade because of a position on the other side. -/
def reject (c : Conflict) (nt : NewTrade) : DeskM Outcome := do
  let now ← clock
  let reason := "opposite " ++ c.existing.side.text ++ " position open on " ++ c.symbol ++
    " (primary " ++ c.existing.primaryTradeId ++ ")"
  within ("position: reject " ++ nt.tradeId ++ ": ")
    (change .markStatus fun s => s.markStatus now nt.tradeId .rejected reason)
  invalidate nt.traderId
  tally fun m => { m with rejects := m.rejects + 1 }
  return { tradeId := nt.tradeId, action := .reject, status := .rejected,
           primaryTradeId := c.existing.primaryTradeId, conflict := some c, reason := reason }

/-- Reject the new trade because of a cooldown; the reason gives the time left in whole
seconds. -/
def cooldownReject (nt : NewTrade) (c : Option Conflict) (cd : Cooldown) : DeskM Outcome := do
  let now ← clock
  let reason := nt.symbol ++ " on cooldown (" ++ cd.scope.text ++ ") for " ++
    Duration.text (Duration.round cd.remaining Duration.perSecond)
  within ("position: cooldown reject " ++ nt.tradeId ++ ": ")
    (change .markStatus fun s => s.markStatus now nt.tradeId .cooldownRejected reason)
  invalidate nt.traderId
  tally fun m => { m with rejects := m.rejects + 1 }
  return { tradeId := nt.tradeId, action := .cooldown, status := .cooldownRejected, conflict := c,
           cooldown := some cd, reason := reason }

/-- Close every other trade of the position at the mark price (or its entry price), gathering
the failures of all closes. -/
def closeAll (ids : List String) (keep : String) (exit : Float) (now : Instant) (reason : String) :
    DeskM (Option Fault) :=
  ids.foldlM (fun acc id =>
    if id == keep then pure acc
    else do
      match ← attempt (change .closeTrade fun s => s.closeTrade now id exit now reason) with
      | .ok () => pure acc
      | .error f => pure (some (match acc with
        | none => f
        | some a => a.append f))) none

/-- Replace the position by the new trade: close the position's trades, and bring a rejected
new trade back to pending (open when its entry has filled). -/
def replace (c : Conflict) (nt : NewTrade) : DeskM Outcome := do
  let now ← clock
  let exit := (← mark c.symbol).getD c.existing.entryPrice
  let reason := "replaced by " ++ nt.tradeId
  if let some e ← closeAll c.existing.tradeIds nt.tradeId exit now reason then
    invalidate nt.traderId
    throw (e.wrap ("position: replace " ++ c.existing.primaryTradeId ++ ": "))
  let t ← match ← attempt (read .getTrade (·.get nt.tradeId)) with
    | .ok t => pure t
    | .error f => do
      invalidate nt.traderId
      throw (f.wrap ("position: load replacing trade " ++ nt.tradeId ++ ": "))
  let promote := t.status == .rejected || t.status == .cooldownRejected
  let status := if promote then (if t.entryFilledQty > 0 then .opened else .pending) else t.status
  if promote then
    match ← attempt (change .markStatus fun s => s.markStatus now t.id status "admitted by replace") with
    | .error f =>
      invalidate nt.traderId
      throw (f.wrap ("position: promote " ++ t.id ++ ": "))
    | .ok () => pure ()
  invalidate nt.traderId
  return { tradeId := nt.tradeId, action := .replace, status := status,
           primaryTradeId := nt.tradeId, conflict := some c, reason := reason }

/-- Settle a conflict by its action. -/
def resolveConflict (c : Option Conflict) (nt : NewTrade) : DeskM Outcome := do
  match c with
  | none => throw (Fault.plain "position: nil conflict")
  | some c =>
    match c.action with
    | .merge => merge c nt
    | .reject => reject c nt
    | .replace => replace c nt
    | .cooldown =>
      let cd ← setCooldown .symbolTrader nt.symbol nt.traderId 0
        ("cooldown after conflict on " ++ c.symbol ++ " " ++ c.type.text)
      cooldownReject nt (some c) cd
    | a => throw (Fault.plain ("position: unknown conflict action " ++ quoteText a.text))

/-- Admission when the positions could not be read, by the failure policy. -/
def checkFailed (nt : NewTrade) (cause : Fault) : DeskM Outcome := do
  if (← get).config.policy == .failClosed then
    let now ← clock
    ignoring (change .markStatus fun s =>
      s.markStatus now nt.tradeId .rejected ("conflict check unavailable: " ++ cause.text))
    invalidate nt.traderId
    tally fun m => { m with rejects := m.rejects + 1 }
    throw { kind := .conflictCheckUnavailable,
            text := "position conflict check unavailable: " ++ cause.text }
  else
    tally fun m => { m with degradedAdmits := m.degradedAdmits + 1 }
    return { tradeId := nt.tradeId, action := .allow, degraded := true, reason := cause.text }

/-- Admit a new trade: refuse invalid data, reject it during a cooldown, settle a conflict,
or admit it. -/
def processTrade (nt : NewTrade) : DeskM Outcome := do
  if let some f := nt.validate then throw f
  tally fun m => { m with conflictLatency := m.conflictLatency.time }
  if let some cd ← onCooldown nt.symbol nt.traderId then
    return ← cooldownReject nt none cd
  match ← attempt (checkConflict nt.traderId nt.symbol nt.side nt.tradeId) with
  | .error f => checkFailed nt f
  | .ok none =>
    invalidate nt.traderId
    return { tradeId := nt.tradeId, action := .allow }
  | .ok (some c) => resolveConflict (some c) nt

/-- Admit a stored trade, which must still be pending. -/
def admitTrade (id : String) : DeskM Outcome := do
  let t ← read .getTrade (·.get id)
  if t.status != .pending then
    throw { kind := .notAdmissible,
            text := "trade is not admissible: trade " ++ t.id ++ " is " ++ t.status.text }
  processTrade (NewTrade.ofTrade t)

/-- Replace a trader's position on a symbol and side by a stored trade of the trader. -/
def replaceTrade (trader symbol : String) (side : TradeSide) (newId : String) : DeskM Outcome := do
  let t ← read .getTrade (·.get newId)
  if t.traderId != trader || !side.valid then
    throw { kind := .invalidTrade,
            text := "invalid trade data: trade " ++ newId ++ " does not belong to " ++ trader ++
              " or side " ++ quoteText side.text }
  let snap ← snapshot trader
  match ← exact (snap.position trader symbol side newId) with
  | none => throw { kind := .noPosition,
                    text := "no open position: " ++ trader ++ " " ++ symbol ++ " " ++ side.text }
  | some pos =>
    replace { newTradeId := newId, traderId := trader, symbol := symbol, side := t.side,
              existing := pos, type := if t.side == side then .sameSide else .oppositeSide,
              action := .replace } (NewTrade.ofTrade t)

end Desk

end TradeLedger
