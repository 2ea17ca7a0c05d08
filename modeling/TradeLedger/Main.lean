import TradeLedger.Cli.Program
/-!
# The command line

The program's entry point: it reads what a run sees of the machine (the variables, the tuning
file they name, and the clock), runs the command line, and writes the output and error streams.
A run that ends with an error exits with status 1.

## Main definitions

* `main`: the program.
-/

namespace TradeLedger

namespace Main

/-- The boot time in the kernel's statistics, in seconds since the epoch, if it reads. -/
def bootSeconds (stat : String) : Option Nat :=
  (stat.splitOn "\n").findSome? fun line =>
    match line.splitOn " " with
    | ["btime", n] => n.toNat?
    | _ => none

/-- The clock, in milliseconds since the epoch. -/
def clockMs : IO Int := do
  let sinceBoot ← IO.monoMsNow
  let boot ← try pure (bootSeconds (← IO.FS.readFile "/proc/stat")) catch _ => pure none
  pure ((boot.getD 0 * 1000 + sinceBoot : Nat) : Int)

/-- What a run sees of this machine. -/
def machine : IO Machine := do
  let env ← Settings.variableNames.filterMapM fun key => do
    pure ((← IO.getEnv key).map (key, ·))
  let files ← match Environment.get env "LEDGER_SYNC_CONFIG" with
    | "" => pure []
    | path => do
      let text ← try pure (some (← IO.FS.readFile path)) catch _ => pure none
      pure (match text with
        | some t => [(path, t)]
        | none => [])
  pure { env, files := fun path => files.lookup path, now := some (← clockMs) }

end Main

end TradeLedger

/-- Run the program on its command line. -/
def main (args : List String) : IO UInt32 := do
  let outcome := (← TradeLedger.Main.machine).run args
  IO.print outcome.stdout
  IO.eprint outcome.stderr
  pure (if outcome.error.isSome then 1 else 0)
