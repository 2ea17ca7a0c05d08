import TradeLedger.Command.Pure
import TradeLedger.Command.Analysis
import TradeLedger.Command.CooldownSteps
import TradeLedger.Command.ServiceSteps
import TradeLedger.Command.VenueSteps
import TradeLedger.Command.Ledger
import TradeLedger.Command.DbSteps
import TradeLedger.Command.ConfigSteps
import TradeLedger.Command.NotifySteps
import TradeLedger.Command.CliSteps
import TradeLedger.Command.ConnectionSteps
import TradeLedger.Json.Read
/-!
# Answering command lines

A command line is one JSON object whose `op` names the command. The answer is one JSON object:
the command's result, or `{"error": kind, "message": text}`; a request that cannot be decoded is
refused with the kind `bad_input`.

## Main definitions

* `answerLine`: the answer to one line.
-/

namespace TradeLedger

namespace Command

/-- Run a command's decoder, turning a refusal into a bad-request answer. -/
def orBadInput (r : Input Json) : Json :=
  match r with
  | .ok v => v
  | .error m => errorAnswer "bad_input" m

/-- The answer to a decoded request when the machine's clock reads `machineMs` (unix
milliseconds). -/
def answer (machineMs : Int) (j : Json) : Json :=
  let op := match Input.text j "op" with
    | .ok s => s
    | .error _ => ""
  orBadInput <| match op with
    | "decode" => decodeFrame j
    | "parse_order_status" => parseStatus j
    | "decide_fill" => decideFill j
    | "fill" => fill j
    | "contains_id" => containsId j
    | "infer_leg" => inferLeg j
    | "leg_of" => legOf j
    | "weighted_entry" => weightedEntry j
    | "aggregate" => aggregate j
    | "best_match" => bestMatch j
    | "derive_pnl" => derivePnl j
    | "sides_agree" => sidesAgree j
    | "build_position_history" => positionHistory j
    | "sign" => sign j
    | "can_transition" => canTransition j
    | "state_machine" => stateMachine j
    | "cooldown" => cooldown j
    | "price_cache" => priceCache j
    | "balance" => balance j
    | "histogram" => histogram j
    | "weight_tracker" => weightTracker j
    | "server_clock" => serverClock j
    | "rate_window" => rateWindow j
    | "listen_key" => listenKey j
    | "dispatch" => dispatchFrames j
    | "ledger" => ledger machineMs j
    | "position_manager" => positionManager j
    | "bare" => bare j
    | "batch_writer" => batchWriter j
    | "db" => db j
    | "config" => config j
    | "notify" => notify j
    | "cli" => cli j
    | "connection" => connection j
    | "venue" => venue j
    | _ => .error ("unknown op " ++ quoteText op)

/-- The answer text to a request line when the machine's clock reads `machineMs`. -/
def answerLine (machineMs : Int) (line : String) : String :=
  match Json.parse line with
  | .ok j => (answer machineMs j).render
  | .error m => (errorAnswer "bad_input" ("request is not JSON: " ++ m)).render

end Command

end TradeLedger
