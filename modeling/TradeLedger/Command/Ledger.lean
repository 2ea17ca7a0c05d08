import TradeLedger.Command.AdminSteps
/-!
# The ledger command

The ledger command drives one desk through a list of steps on one clock. A step is tried as a
clock step, a store step, a service step, a reconciliation step, a step of the admin API, and
then as a step on the desk's tables; anything else is refused. An unknown failure policy refuses
the whole request. Admin tokens are made and checked at the machine's clock.

## Main definitions

* `ledgerStep`: one step.
* `ledger`: the command's answer.
-/

namespace TradeLedger

namespace Command

def ledgerStep (r : LedgerRun) (j : Json) : Input (LedgerRun × Json) := do
  let d := r.desk
  if let some clock := clockStep? d.now j then
    let (t, a) ← clock
    return ({ r with desk := { d with now := t } }, a)
  if let some step := storeStep? r j then return ← step
  if let some step := serviceStep? r j then return ← step
  if let some step := reconcileStep? r j then return ← step
  if let some step := adminStep? r j then return ← step
  if let some step := cooldownTableStep? d.cooldowns d.now j then
    let (t, a) ← step
    return ({ r with desk := { d with cooldowns := t } }, a)
  if let some step := priceStep? d.prices d.now j then
    let (c, a) ← step
    return ({ r with desk := { d with prices := c } }, a)
  if let some step := balanceStep? d.balances j then
    let (b, a) ← step
    return ({ r with desk := { d with balances := b } }, a)
  unknownStep "ledger" j

/-- The desk's tuning from a request, or the refusal of an unknown failure policy. -/
def deskConfig (cfg : Json) : Input (Except Fault DeskConfig) := do
  let window ← Input.duration cfg "fallback_window_ms"
  let limit ← Input.int cfg "fallback_limit"
  let interval ← Input.duration cfg "mark_price_min_interval_ms"
  let base : DeskConfig := {
    fallbackWindow := if window ≤ 0 then ({} : DeskConfig).fallbackWindow else window
    fallbackLimit := if limit ≤ 0 then 200 else limit
    markPriceMinInterval := interval }
  match ← Input.text cfg "failure_policy" with
  | "" | "open" => pure (.ok base)
  | "closed" => pure (.ok { base with policy := .failClosed })
  | other => pure (.error (Fault.plain ("position: unknown failure policy " ++ quoteText other)))

/-- `ledger`: a ledger with its services, driven by steps. -/
def ledger (machineMs : Int) (j : Json) : Input Json := do
  let cfg ← Input.object j "config"
  match ← deskConfig cfg with
  | .error f => pure (deskFault f)
  | .ok config =>
    let cd ← Input.object cfg "cooldown"
    let symbolLen ← Input.duration cd "symbol_ms"
    let traderLen ← Input.duration cd "trader_ms"
    let mergeLen ← Input.duration cd "post_merge_ms"
    let defaults : CooldownDefaults := { symbol := symbolLen, trader := traderLen, postMerge := mergeLen }
    let desk : Desk := { now := ← startOf j, config := config, cooldowns := { defaults := defaults } }
    let run : LedgerRun := { desk, api := ← Input.object j "api", machineMs }
    pure (stepsAnswer (runSteps ledgerStep run (← Input.list j "ops")).2)

/-- `position_manager`: the positions of a trader on an empty ledger, from a manager tuned by
the request; a manager needs a store and a known failure policy. -/
def positionManager (j : Json) : Input Json := do
  if ← Input.flag j "nil_store" then return deskFault (Fault.plain "position: store is required")
  match ← deskConfig j with
  | .error f => pure (deskFault f)
  | .ok config =>
    let trader ← Input.text j "trader_id"
    let desk : Desk := { now := ← startOf j, config }
    pure (match runDesk (Desk.positions trader) desk with
      | (.ok ps, _) => .obj [("positions", Json.ofNat ps.length)]
      | (.error f, _) => deskFault f)

/-- `bare`: frames through the production dispatcher of a desk with nothing attached, then one
reconciliation over its empty ledger. -/
def bare (j : Json) : Input Json := do
  let frames ← Input.texts j "frames"
  let desk : Desk := { now := ← startOf j }
  let (desk, results) := frames.foldl (fun (acc : Desk × List Json) f =>
    let (d, decoded) := Desk.syncDispatcher.dispatch acc.1 (Utf8.encode f)
    (d, acc.2 ++ [.obj [("published", Json.ofNat decoded.events.length),
      ("errors", .arr (decoded.errors.map DecodeError.toJson))]])) (desk, [])
  let sorted := desk.prices.entries.mergeSort fun a b => decide (a.1 ≤ b.1)
  let reconcile := match runDesk (Desk.reconcile (runIdOf 0) {}) desk with
    | (.ok rep, _) => Json.obj [("examined", Json.ofNat rep.examined),
        ("lookback_ms", Json.ofInt (Duration.toMs rep.lookback)),
        ("run_id_length", Json.ofNat rep.runId.length)]
    | (.error f, _) => deskFault f
  pure (.obj [("results", .arr results),
    ("prices", .obj (sorted.map fun p => (p.1, Json.ofFloat p.2.price))),
    ("balances", .arr (desk.balances.snapshot.map AssetBalance.toJson)),
    ("reconcile", reconcile)])

end Command

end TradeLedger
