import TradeLedger.Command.ServiceSteps
import TradeLedger.Venue.Client
/-!
# The venue command

The REST client on the step clock. Every answer but the clock's lists the requests the venue
received during the step; none ever arrives.

## Main definitions

* `venueStep`: one step.
-/

namespace TradeLedger

/-- The JSON form of a fill, in the fill listing. -/
def Fill.toJson (f : Fill) : Json :=
  .obj [("id", Json.ofInt f.id), ("order_id", Json.ofInt f.orderId), ("symbol", .str f.symbol),
    ("side", .str f.side), ("position_side", .str f.positionSide), ("price", .str f.price),
    ("qty", .str f.qty), ("realized_pnl", .str f.realizedPnl), ("commission", .str f.commission),
    ("time", Json.ofInt f.time)]

namespace Command

/-- The answer of a failed step. -/
def faultAnswer (f : Fault) : List (String × Json) :=
  [("error", .str f.kind.name), ("message", .str f.text)]

/-- The JSON form of the client's clock estimate. -/
def venueClockJson (c : ServerClock) : Json :=
  .obj [("offset_ms", Json.ofInt (Duration.toMs c.offset)), ("last_sync", Json.ofTime c.lastSync)]

def resultMembers {α : Type} (r : Except Fault α) (ok : α → List (String × Json)) :
    List (String × Json) :=
  match r with
  | .ok v => ok v
  | .error f => faultAnswer f

def venueStep (s : Instant × VenueClient) (j : Json) : Input ((Instant × VenueClient) × Json) := do
  if let some clock := clockStep? s.1 j then
    let (t, a) ← clock
    return ((t, s.2), a)
  let c := s.2
  let (c, members) ← match ← Input.text j "op" with
    | "create_listen_key" => pure (c, resultMembers c.createListenKey fun k => [("key", .str k)])
    | "keepalive" => pure (c, resultMembers (c.keepAlive (← Input.text j "key")) fun _ => [("ok", .bool true)])
    | "close_listen_key" =>
      pure (c, resultMembers (c.closeListenKey (← Input.text j "key")) fun _ => [("ok", .bool true)])
    | "server_time" => pure (c, resultMembers c.serverTime fun t => [("server_time", Json.ofInt t)])
    | "sync_clock" =>
      let (c, r) := c.syncClock
      pure (c, ("clock", venueClockJson c.clock) :: resultMembers r fun _ => [])
    | "clock_run_cancelled" =>
      let (c, _) := c.syncClock
      pure (c, [("clock", venueClockJson c.clock)])
    | "user_trades" =>
      let r := c.userTrades (← Input.text j "symbol") (← Input.time j "start") (← Input.time j "end")
      pure (c, resultMembers r fun fills =>
        if fills.length ≤ 20 then [("count", Json.ofNat fills.length), ("trades", .arr (fills.map Fill.toJson))]
        else [("count", Json.ofNat fills.length), ("first", (fills.headD default).toJson),
              ("last", (fills.getLastD default).toJson)])
    | "position_history" =>
      let r := c.positionHistory (← Input.text j "symbol") (← Input.time j "start") (← Input.time j "end")
      pure (c, resultMembers r fun rs => [("records", .arr (rs.map PositionRecord.toJson))])
    | "status" =>
      pure (c, [("weight", (c.weight.usage s.1).toJson), ("clock", venueClockJson c.clock)])
    | "funding" =>
      let r := c.fundingBetween (← Input.text j "symbol") (← Input.time j "start") (← Input.time j "end")
      pure (c, resultMembers r fun t => [("total", Json.ofFloat t)])
    | "down" => pure (c, [("ok", .bool true)])
    | _ => unknownStep "venue" j
  pure ((s.1, c), .obj (members ++ [("requests", .arr [])]))

/-- `venue`: the REST client against the venue. -/
def venue (j : Json) : Input Json := do
  let cfg ← Input.object j "config"
  let apiKey ← Input.text cfg "api_key"
  let apiSecret ← Input.text cfg "api_secret"
  let recvWindow ← Input.int cfg "recv_window"
  let c := VenueClient.create { apiKey := apiKey, apiSecret := apiSecret, recvWindow := recvWindow }
  pure (stepsAnswer (runSteps venueStep (← startOf j, c) (← Input.list j "ops")).2)

end Command

end TradeLedger
