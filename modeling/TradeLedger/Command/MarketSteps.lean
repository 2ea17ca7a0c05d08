import TradeLedger.Command.CooldownSteps
import TradeLedger.Market.Prices
import TradeLedger.Market.Balances
import TradeLedger.Monitor.Histogram
/-!
# Price, balance and histogram commands

The mark-price cache on the step clock, the balance state, and a latency histogram, each driven
by steps.

## Main definitions

* `priceCache`, `balance`, `histogram`: the commands' answers.
-/

namespace TradeLedger

/-- The JSON form of a balance line, with its total. -/
def AssetBalance.toJson (a : AssetBalance) : Json :=
  .obj [("asset", .str a.asset), ("free", Json.ofFloat a.free), ("locked", Json.ofFloat a.locked),
    ("total", Json.ofFloat a.total)]

def AssetBalance.ofJson (j : Json) : Input AssetBalance := do
  pure { asset := ← Input.text j "asset", free := ← Input.float j "free",
         locked := ← Input.float j "locked" }

def LatencyStats.toJson (s : LatencyStats) : Json :=
  .obj [("min", Json.ofFloat s.min), ("max", Json.ofFloat s.max), ("avg", Json.ofFloat s.avg),
    ("p50", Json.ofFloat s.p50), ("p95", Json.ofFloat s.p95), ("p99", Json.ofFloat s.p99),
    ("count", Json.ofNat s.count)]

namespace Command

/-- The answer `{"ok": true}`. -/
def okAnswer : Json := .obj [("ok", .bool true)]

/-- A loop interval: at most 20 ms. -/
def loopInterval (j : Json) : Input Int := do
  let ms ← Input.int j "interval_ms"
  if maxLoopInterval < ms then .error "interval_ms must be at most 20" else pure ms

def priceStep? (c : PriceCache) (now : Instant) (j : Json) : Option (Input (PriceCache × Json)) :=
  match Input.text j "op" with
  | .ok "set_price" => some do
    pure (c.set now (← Input.text j "symbol") (← Input.float j "price"), okAnswer)
  | .ok "set_throttled" => some do
    let (c, ok) := c.setThrottled now (← Input.text j "symbol") (← Input.float j "price")
      (← Input.duration j "min_interval_ms")
    pure (c, .obj [("accepted", .bool ok)])
  | .ok "get_price" => some do
    match c.get? (← Input.text j "symbol") with
    | some p => pure (c, .obj [("found", .bool true), ("price", Json.ofFloat p)])
    | none => pure (c, .obj [("found", .bool false), ("price", Json.ofFloat 0)])
  | .ok "price_cleanup" => some do
    let (c, n) := c.cleanup now (← Input.duration j "max_age_ms")
    pure (c, .obj [("removed", Json.ofNat n)])
  | .ok "prices" => some do
    let sorted := c.entries.mergeSort fun a b => decide (a.1 ≤ b.1)
    pure (c, .obj [("prices", .obj (sorted.map fun p => (p.1, Json.ofFloat p.2.price)))])
  | .ok "price_stats" => some do
    let s := c.stats now
    pure (c, .obj [("total_items", Json.ofNat s.totalItems), ("throttled", Json.ofNat s.throttled),
      ("oldest_age_ms", Json.ofInt (Duration.toMs s.oldestAge))])
  | .ok "last_price_key" => some do
    pure (c, .obj [("key", .str (lastPriceKey (← Input.text j "symbol")))])
  | _ => none

def balanceStep? (b : Balances) (j : Json) : Option (Input (Balances × Json)) :=
  match Input.text j "op" with
  | .ok "apply_snapshot" => some do
    let rows ← (← Input.list j "assets").mapM AssetBalance.ofJson
    let (b, ok) := b.apply (← Input.int j "event_time") rows
    pure (b, .obj [("applied", .bool ok)])
  | .ok "get_balance" => some do
    match b.get? (← Input.text j "asset") with
    | some a => pure (b, .obj [("found", .bool true), ("balance", a.toJson)])
    | none => pure (b, .obj [("found", .bool false)])
  | .ok "balances" => some do
    pure (b, .obj [("balances", .arr (b.snapshot.map AssetBalance.toJson))])
  | _ => none

def priceCacheStep (s : Instant × PriceCache) (j : Json) : Input ((Instant × PriceCache) × Json) := do
  if let some clock := clockStep? s.1 j then
    let (t, a) ← clock
    return ((t, s.2), a)
  if let some step := priceStep? s.2 s.1 j then
    let (c, a) ← step
    return ((s.1, c), a)
  match ← Input.text j "op" with
  | "run_loop" =>
    let _ ← loopInterval j
    let maxAge ← Input.duration j "max_age_ms"
    let c := if 0 < maxAge then (s.2.cleanup s.1 maxAge).1 else s.2
    pure ((s.1, c), okAnswer)
  | _ => unknownStep "price_cache" j

/-- `price_cache`: the mark-price cache driven by steps. -/
def priceCache (j : Json) : Input Json := do
  let now ← startOf j
  pure (stepsAnswer (runSteps priceCacheStep (now, {}) (← Input.list j "ops")).2)

def balanceStep (b : Balances) (j : Json) : Input (Balances × Json) := do
  match balanceStep? b j with
  | some step => step
  | none => unknownStep "balance" j

/-- `balance`: the balance state driven by steps. -/
def balance (j : Json) : Input Json := do
  pure (stepsAnswer (runSteps balanceStep {} (← Input.list j "ops")).2)

def histogramStep (h : LatencyHistogram) (j : Json) : Input (LatencyHistogram × Json) := do
  match ← Input.text j "op" with
  | "record" => pure (h.record (← Input.float j "ms"), okAnswer)
  | "record_ns" => pure (h.recordNs (← Input.int j "ns"), okAnswer)
  | "stats" => pure (h, h.stats.toJson)
  | _ => unknownStep "histogram" j

/-- `histogram`: a latency histogram driven by steps. -/
def histogram (j : Json) : Input Json := do
  let h := LatencyHistogram.empty (← Input.int j "size")
  pure (stepsAnswer (runSteps histogramStep h (← Input.list j "ops")).2)

end Command

end TradeLedger
