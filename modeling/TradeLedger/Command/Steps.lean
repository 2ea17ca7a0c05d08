import TradeLedger.Command.Reports
import TradeLedger.Time.Instant
/-!
# Commands with state

A stateful command runs a list of steps over one state and answers every step in order. A step
that cannot be decoded answers the bad-request object in its place, and later steps still run.
A clock starts at `start`, by default 2026-10-01T12:00:00Z, and only `advance` and `set_time`
move it.

## Main definitions

* `runSteps`: the answers of a list of steps.
* `clockStep?`: a step on the clock.
-/

namespace TradeLedger

namespace Command

/-- 2026-10-01T12:00:00Z in unix milliseconds. -/
def defaultStart : Int := 1790856000000

/-- The clock's start in a request. -/
def startOf (j : Json) : Input Instant :=
  match Input.arg? j "start" with
  | none => pure (some defaultStart)
  | some _ => Input.time j "start"

/-- The answer showing the clock. -/
def nowAnswer (now : Instant) : Json := .obj [("now", Json.ofTime now)]

/-- A clock step, if the step is one: the new instant and the answer. -/
def clockStep? (now : Instant) (j : Json) : Option (Input (Instant × Json)) :=
  match Input.text j "op" with
  | .ok "advance" => some do
    let ms ← Input.int j "ms"
    let t := now.addMs ms
    pure (t, nowAnswer t)
  | .ok "set_time" => some do
    let t ← Input.time j "time"
    pure (t, nowAnswer t)
  | _ => none

/-- The refusal of a step of unknown name. -/
def unknownStep {α : Type} (command : String) (j : Json) : Input α := do
  let op ← Input.text j "op"
  .error ("unknown " ++ command ++ " op " ++ quoteText op)

/-- Run steps over a state: the final state and every step's answer. -/
def runSteps {σ : Type} (step : σ → Json → Input (σ × Json)) (init : σ) (ops : List Json) :
    σ × List Json :=
  ops.foldl (fun (acc : σ × List Json) j =>
    match step acc.1 j with
    | .ok (s, a) => (s, acc.2 ++ [a])
    | .error m => (acc.1, acc.2 ++ [errorAnswer "bad_input" m])) (init, [])

def stepsAnswer (answers : List Json) : Json := .obj [("steps", .arr answers)]

end Command

end TradeLedger
