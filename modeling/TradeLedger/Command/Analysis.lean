import TradeLedger.Command.Reports
import TradeLedger.Reconcile.Pnl
import TradeLedger.Digest.Hmac
import TradeLedger.Stream.State
/-!
# Commands on positions, reconciliation and the venue

Each command reads its arguments, calls one function of the library and writes the result. A
computation that meets a float without a decimal answers with the kind `panic`.

## Main definitions

* `aggregate`, `bestMatch`, `derivePnl`, `positionHistory`: one command per function.
-/

namespace TradeLedger

namespace Command

/-- The answer of an exact computation: its result, or the panic answer. -/
def exactAnswer (r : Exact Json) : Json :=
  match r with
  | .ok v => v
  | .error m => panicAnswer m

/-- `weighted_entry`: combined size and weighted entry price. -/
def weightedEntry (j : Json) : Input Json := do
  let sa ← Input.float j "size_a"
  let pa ← Input.float j "price_a"
  let sb ← Input.float j "size_b"
  let pb ← Input.float j "price_b"
  pure <| exactAnswer do
    let (size, entry) ← TradeLedger.weightedEntry sa pa sb pb
    pure (.obj [("size", Json.ofFloat size), ("entry", Json.ofFloat entry)])

/-- `aggregate`: the position of some trades. -/
def aggregate (j : Json) : Input Json := do
  let traderId ← Input.text j "trader_id"
  let trades ← (← Input.list j "trades").mapM Trade.ofJson
  let exclude ← Input.text j "exclude"
  pure <| exactAnswer do
    match ← TradeLedger.aggregate traderId trades exclude with
    | some p => pure (.obj [("found", .bool true), ("position", p.toJson)])
    | none => pure (.obj [("found", .bool false)])

/-- `best_match`: the record matched to a trade. -/
def bestMatch (j : Json) : Input Json := do
  let t ← Trade.ofJson (← Input.object j "trade")
  let records ← (← Input.list j "records").mapM Record.ofJson
  let tol ← match Input.arg? j "tolerance" with
    | none => pure Tolerance.strict
    | some tj => do pure ⟨← Input.duration tj "open_ms", ← Input.duration tj "close_ms"⟩
  let used ← Input.texts j "used"
  match TradeLedger.bestMatch t records tol (fun id => !used.contains id) with
  | some r => pure (.obj [("found", .bool true), ("close_id", .str r.closeId)])
  | none => pure (.obj [("found", .bool false)])

/-- `derive_pnl`: the net realized profit, rounded, and whether it differs materially from
the stored figure. -/
def derivePnl (j : Json) : Input Json := do
  let side := TradeSide.ofText (← Input.text j "side")
  let r ← Record.ofJson (← Input.object j "record")
  let funding ← Input.float j "funding"
  let stored ← Input.float j "stored"
  let threshold ← Input.float j "threshold"
  pure <| exactAnswer do
    let pnl ← TradeLedger.derivePnl side r funding
    let m ← material stored pnl threshold
    pure (.obj [("pnl", .str pnl.text), ("pnl_rounded", Json.ofFloat (pnl.round 8).toFloat),
      ("material", .bool m)])

/-- `sides_agree`: whether a record's side is compatible with a trade's. -/
def sidesAgree (j : Json) : Input Json := do
  let t := TradeSide.ofText (← Input.text j "trade_side")
  let r ← Input.text j "record_side"
  pure (.obj [("result", .bool (TradeLedger.sidesAgree t r))])

/-- `build_position_history`: the closed round trips of some fills. -/
def positionHistory (j : Json) : Input Json := do
  let fills ← (← Input.list j "fills").mapM Fill.ofJson
  pure (.obj [("records", .arr ((buildPositionHistory fills).map PositionRecord.toJson))])

/-- `sign`: the signature of a payload. -/
def sign (j : Json) : Input Json := do
  let payload ← Input.text j "payload"
  let secret ← Input.text j "secret"
  pure (.obj [("signature", .str (signRequest payload secret))])

/-- `can_transition`: whether a lifecycle move is allowed. -/
def canTransition (j : Json) : Input Json := do
  let s := StreamState.ofText (← Input.text j "from")
  let n := StreamState.ofText (← Input.text j "to")
  pure (.obj [("result", .bool (s.canTransition n))])

/-- One move of the lifecycle from `s`: the state after it and the step's answer. -/
def lifecycleStep (s : StreamState) (next : String) : StreamState × Json :=
  match s.transition (StreamState.ofText next) with
  | .ok s' => (s', .obj [("state", .str s'.text)])
  | .error m => (s, .obj [("state", .str s.text), ("error", .str "invalid_transition"),
      ("message", .str m)])

/-- `state_machine`: a run of moves from disconnected. -/
def stateMachine (j : Json) : Input Json := do
  let moves ← Input.texts j "ops"
  let (_, steps) := moves.foldl (fun (acc : StreamState × List Json) m =>
    let (s', a) := lifecycleStep acc.1 m
    (s', acc.2 ++ [a])) (.disconnected, [])
  pure (.obj [("steps", .arr steps)])

end Command

end TradeLedger
