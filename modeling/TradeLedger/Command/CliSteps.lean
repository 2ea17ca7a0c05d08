import TradeLedger.Cli.Program
import TradeLedger.Command.ConfigSteps
import TradeLedger.Command.CooldownSteps
/-!
# The program's command line

Run the program on a command line in a fresh directory `<tmp>`, with the request's environment
and what it sets up: the ledger's path, a key-value server and a tuning file. The answer is the
run's error and its two streams, with tokens, run ids and times masked. A `serve` that would
stream from the venue is refused.

## Main definitions

* `cliMachine`: the machine a request sets up.
* `cli`: the command's answer.
-/

namespace TradeLedger

namespace Command

/-- The run's directory. -/
def tmpDir : String := "<tmp>"

/-- The address of the key-value server, masked. -/
def serverAddr : String := "<addr>"

/-- Set a variable, replacing any earlier value. -/
def Environment.set (env : Environment) (key value : String) : Environment :=
  (key, value) :: env.filter (·.1 != key)

/-- The machine a request describes: its environment with the console log, the ledger's path
and the server's address, its files, and where its paths lead. The clock is the machine's own,
which the answer masks. -/
def cliMachine (j : Json) : Input Machine := do
  let (env, files) ← requestEnvironment j (tmpDir ++ "/tuning.yaml")
  let env := Environment.set env "LOG_MODE" "console"
  let blocker := tmpDir ++ "/blocker"
  let (env, paths) : Environment × (String → PathKind) ←
    match ← Input.text j "db" with
    | "" => pure (env, fun _ => .free)
    | "memory" => pure (Environment.set env "DB_PATH" ":memory:", fun _ => .free)
    | "file" => pure (Environment.set env "DB_PATH" (tmpDir ++ "/data/ledger.db"), fun _ => .free)
    | "dir" =>
      pure (Environment.set env "DB_PATH" tmpDir, fun p => if p == tmpDir then .directory else .free)
    | "blocked" =>
      pure (Environment.set env "DB_PATH" (blocker ++ "/ledger.db"),
        fun p => if p.startsWith (blocker ++ "/") then .underFile blocker else .free)
    | other => throw ("unknown db " ++ quoteText other)
  let server := (Input.arg? j "redis").isSome || (← Input.flag j "redis_down")
  let env := if server then Environment.set env "REDIS_ADDR" serverAddr else env
  pure { env, files, paths, now := some 0 }

/-- The mask of an issued token: its operator and subject, and whether its lifetime is within a
second of `expected` seconds. -/
def maskToken (claims : TokenClaims) (expected : Int) : String :=
  let lifetime := match claims.expiresAt, claims.issuedAt with
    | some e, some i =>
      if (e - i - Float.ofInt expected).abs ≤ 1 then "expected" else toString (e - i).toInt64
    | _, _ => "unknown"
  "<token op=" ++ claims.operator ++ " sub=" ++ claims.subject ++ " lifetime=" ++ lifetime ++ ">"

/-- The output with a token signed under `secret` shown by its mask. -/
def maskOutput (secret : String) (expected : Int) (out : String) : String :=
  let text := if out.endsWith "\n" then String.ofList out.toList.dropLast else out
  match Token.open? secret text with
  | .ok claims => maskToken claims expected
  | .error _ => out

/-- A report line with its run id or time shown by a marker. -/
def maskReportLine (line : String) : String :=
  let masked (key marker : String) : Option String :=
    let lead := "  \"" ++ key ++ "\": "
    if line.startsWith lead then
      some (lead ++ "\"" ++ marker ++ "\"" ++ (if line.endsWith "," then "," else ""))
    else none
  ((masked "run_id" "<ulid>").orElse fun _ =>
    (masked "started_at" "<now>").orElse fun _ => masked "finished_at" "<now>").getD line

/-- The output with a report's run id and times shown by markers. -/
def maskReport (out : String) : String := "\n".intercalate ((out.splitOn "\n").map maskReportLine)

/-- `cli`: run the program on a command line. -/
def cli (j : Json) : Input Json := do
  let args ← Input.texts j "args"
  let machine ← cliMachine j
  let outcome := machine.run args
  if outcome.serving then throw "serve with credentials would open the venue's streams"
  let secret := (Settings.fromEnvironment machine.env).jwtSecret
  let expected ← Input.int j "expect_ttl_s"
  let stdout := maskReport (maskOutput secret expected outcome.stdout)
  let server ← match Input.arg? j "redis" with
    | some r => do
      let seed ← (← Input.list r "seed").mapM KeyEntry.ofJson
      pure [("redis", Json.arr ((seed.foldl KeyStore.set {}).sorted.map KeyEntry.toJson))]
    | none => pure []
  pure (.obj ([("error", match outcome.error with
      | some e => .str e
      | none => .null),
    ("stdout", .str stdout), ("stderr", .str outcome.stderr)] ++ server))

end Command

end TradeLedger
