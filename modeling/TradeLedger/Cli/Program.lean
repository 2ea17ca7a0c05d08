import TradeLedger.Cli.Complete
import TradeLedger.Settings.Load
import TradeLedger.Admin.Token
import TradeLedger.Reconcile.Run
import TradeLedger.Ledger.Schema
import TradeLedger.Time.Civil
import TradeLedger.Network.Dial
/-!
# Running the program

A run of `ledger-sync` resolves its command line to a command, reads its flags, and explains the
command (on help, or when it runs nothing) or runs it, leaving its output and error streams and
its error. Ledger commands load the settings first and open the ledger, creating the directories
on its path and migrating it; a configured key-value server must answer a ping, and the network
here refuses every connection. `version` prints the version, `token` issues an admin token,
`reconcile` runs one pass and prints its report, `serve` needs both venue credentials, and
`__complete` answers a shell's completion request.

## Main definitions

* `Machine`: what a run sees of the machine: settings, files, servers, clock.
* `CliOutcome`: the streams and error a run leaves.
* `run`: one run of the program on a command line.
-/

namespace TradeLedger

/-- Where a path leads on the machine: somewhere a file can be made, under a regular file (the
blocking file's path), or to a directory. -/
inductive PathKind where
  | free
  | underFile (blocker : String)
  | directory
  deriving Repr, DecidableEq, Inhabited

/-- What a run sees of the machine: its environment, the files it can read, where paths lead,
and its clock. -/
structure Machine where
  env : Environment
  files : String → Option String := fun _ => none
  paths : String → PathKind := fun _ => .free
  now : Instant

/-- What a run leaves: its output and error streams, the error it ended with, and whether it
went on to serve. -/
structure CliOutcome where
  stdout : String := ""
  stderr : String := ""
  error : Option String := none
  serving : Bool := false
  deriving Repr, Inhabited

namespace CliOutcome

/-- A run that ended with an error, written after `Error: `. -/
def failed (message : String) : CliOutcome :=
  { stderr := "Error: " ++ message ++ "\n", error := some message }

/-- A run that wrote a text on its output. -/
def printed (text : String) : CliOutcome := { stdout := text }

end CliOutcome

def programVersion : String := "dev"

/-- The letters of the base-32 alphabet that avoids look-alike letters. -/
def crockfordLetters : List Char := "0123456789ABCDEFGHJKMNPQRSTVWXYZ".toList

/-- A sortable run id for a time: the milliseconds in ten base-32 letters, then sixteen more. -/
def runIdAt (now : Instant) : String :=
  let ms := now.toMs.toNat
  let letter (i : Nat) : Char := crockfordLetters.getD (ms / Nat.pow 32 (9 - i) % 32) '0'
  String.ofList ((List.range 10).map letter) ++ String.ofList (List.replicate 16 '0')

/-- How the help names topics it does not know: each between backquotes when it can stand
there, else quoted, all between brackets. -/
def topicsText (topics : List String) : String :=
  let shown (t : String) : String :=
    if t.toList.all (fun c => c != '`' && (c == '\t' || c.toNat ≥ 32) && c.toNat != 127 &&
        c.toNat != 0xFEFF)
    then "`" ++ t ++ "`" else quoteText t
  "[" ++ " ".intercalate (topics.map shown) ++ "]"

/-- The report of a pass as the program prints it: indented JSON, times in RFC 3339, the
lookback in nanoseconds, and the corrections only when there are some. -/
def Report.text (rep : Report) : String :=
  let correction (c : Correction) : Json :=
    .obj [("trade_id", .str c.tradeId), ("close_id", .str c.closeId),
      ("old_pnl", Json.ofFloat c.oldPnl), ("new_pnl", Json.ofFloat c.newPnl),
      ("relaxed", .bool c.relaxed)]
  Json.renderIndented "" (.obj ([("run_id", .str rep.runId),
    ("started_at", .str (Instant.rfc3339 rep.startedAt)),
    ("finished_at", .str (Instant.rfc3339 rep.finishedAt)),
    ("lookback", Json.ofInt rep.lookback), ("dry_run", .bool rep.dryRun),
    ("examined", Json.ofNat rep.examined), ("matched", Json.ofNat rep.matched),
    ("relaxed", Json.ofNat rep.relaxed), ("updated", Json.ofNat rep.updated),
    ("unmatched", Json.ofNat rep.unmatched), ("failed", Json.ofNat rep.failed)] ++
    (if rep.corrections.isEmpty then [] else [("corrections", .arr (rep.corrections.map correction))])))

namespace Machine

/-- The settings as the program loads them. -/
def settings (m : Machine) : Except String Settings :=
  match Settings.load m.env m.files with
  | .ok s => .ok s
  | .error e => .error ("load config: " ++ e.text)

/-- Open the ledger at a path and migrate it: an empty path is refused, the directories on the
path are created unless a regular file stands in the way, and a directory cannot be migrated. -/
def openLedger (m : Machine) (path : String) : Except String Store :=
  if path.isEmpty then .error "database path is empty"
  else if path == ":memory:" then .ok {}
  else
    match m.paths path with
    | .underFile blocker => .error ("create db directory: mkdir " ++ blocker ++ ": not a directory")
    | .directory => .error ("apply migrations: apply schema: " ++ Schema.sqlErrorMarker)
    | .free =>
      match (Schema.migrate {}).2 with
      | some f => .error ("apply migrations: " ++ f.text)
      | none => .ok {}

/-- Ping the key-value server at an address, when one is configured. -/
def pingServer (addr : String) : Except String Unit :=
  if addr.isEmpty then .ok () else .error ("redis ping " ++ addr ++ ": " ++ dialFailure addr)

/-- The services a command that touches the ledger sets up: the settings' ledger, opened and
migrated, and the key-value server, when configured. -/
def openServices (m : Machine) (s : Settings) : Except String Store := do
  let store ← m.openLedger s.dbPath
  pingServer s.redisAddr
  pure store

/-- The reconciliation settings of the program's engine. -/
def engineConfig (t : ReconciliationTuning) : ReconcileConfig :=
  { strict := { opening := t.openTolerance, closing := t.closeTolerance }
    relaxed := { opening := t.relaxedOpenTolerance, closing := t.relaxedCloseTolerance }
    materiality := t.materialityThreshold
    windowPadding := t.windowPadding
    queryInterval := if t.requestsPerSecond > 0 then
        truncateToInt64 (Float.ofInt Duration.perSecond / t.requestsPerSecond)
      else 0 }

/-- The venue as the program's engine sees it here: out of reach. -/
def unreachableVenue : String := dialFailure "fapi.binance.com:443"

def version : CliOutcome := .printed ("ledger-sync version " ++ programVersion ++ "\n")

/-- `token`: issue an admin token. -/
def token (m : Machine) (flags : FlagValues) : CliOutcome :=
  match m.settings with
  | .error e => .failed e
  | .ok s =>
    let operator := flags.text "operator" ""
    let ttl := flags.duration "ttl" (24 * 3600 * Duration.perSecond)
    if operator.isEmpty then .failed "--operator is required"
    else if ttl ≤ 0 then .failed "--ttl must be positive"
    else if s.jwtSecret.isEmpty then .failed "jwt secret is empty"
    else
      let nowNs := m.now.toMs * Duration.perMs
      let claims : TokenClaims :=
        { operator, subject := operator
          expiresAt := some (Float.ofInt ((nowNs + ttl) / Duration.perSecond))
          issuedAt := some (Float.ofInt (nowNs / Duration.perSecond)) }
      .printed (Token.sign s.jwtSecret claims ++ "\n")

/-- `reconcile`: one pass over a fresh ledger, its report printed. -/
def reconcile (m : Machine) (flags : FlagValues) : CliOutcome :=
  match m.settings with
  | .error e => .failed e
  | .ok s =>
    match m.openServices s with
    | .error e => .failed e
    | .ok store =>
      let asked := flags.duration "lookback" 0
      let opts : RunOptions :=
        { lookback := if asked ≤ 0 then s.tuning.reconciliation.lookback else asked
          dryRun := flags.switch "dry-run", traderId := flags.text "trader" "" }
      let reconciler := Reconciler.new (engineConfig s.tuning.reconciliation)
        (.failing unreachableVenue) (some (.failing unreachableVenue)) (some (BatchWriter.new 50))
      let desk : Desk := { now := m.now, store, reconciler }
      match ((Desk.reconcile (runIdAt m.now) opts).run).run desk with
      | (.error f, _) => .failed f.text
      | (.ok rep, d) =>
        let closing := match d.reconciler.auditor with
          | some w => (w.close Store.commitBatch d.store).2.2
          | none => none
        let shown : CliOutcome := .printed (rep.text ++ "\n")
        match closing with
        | some f => { shown with stderr := "Error: " ++ f.text ++ "\n", error := some f.text }
        | none => shown

/-- `serve`: with both venue credentials, open the services and go on serving. -/
def serve (m : Machine) : CliOutcome :=
  match m.settings with
  | .error e => .failed e
  | .ok s =>
    if s.binanceApiKey.isEmpty || s.binanceApiSecret.isEmpty then
      .failed "BINANCE_API_KEY and BINANCE_API_SECRET are required"
    else
      match m.openServices s with
      | .error e => .failed e
      | .ok _ => { serving := true }

/-- `help`: the help of the command the topic words name, or the topics not known and the
program's usage. -/
def helpOn (topics : List String) : CliOutcome :=
  match CliCommand.resolve topics with
  | .ok (c, _) => .printed c.helpText
  | .error _ =>
    .printed ("Unknown help topic " ++ topicsText topics ++ "\n" ++ CliCommand.root.usageText)

/-- Run a command with its flags and positional arguments. -/
def runCommand (m : Machine) (c : CliCommand) (flags : FlagValues) (args : List String) :
    CliOutcome :=
  match c with
  | .version => version
  | .token => m.token flags
  | .reconcile => m.reconcile flags
  | .serve => m.serve
  | .help => helpOn args
  | _ => {}

/-- Answer a shell's completion request for the words after the request's command. -/
def complete (m : Machine) (descriptions : Bool) (words : List String) : CliOutcome :=
  if words.isEmpty then .failed "requires at least 1 arg(s), only received 0"
  else
    let descriptions := match readSwitch (m.env.get "LEDGER_SYNC_COMPLETION_DESCRIPTIONS") with
      | .ok b => descriptions && b
      | .error _ => descriptions
    let (out, err) := CliCommand.completionOutput words descriptions
    { stdout := out, stderr := err }

/-- Run a command line that is not a completion request. -/
def runResolved (m : Machine) (args : List String) : CliOutcome :=
  match CliCommand.resolve args with
  | .error message =>
    { stderr := "Error: " ++ message ++ "\nRun '" ++ CliCommand.programName ++
        " --help' for usage.\n"
      error := some message }
  | .ok (c, rest) =>
    match Flags.parse c.flags rest with
    | .error e => .failed e.text
    | .ok (flags, args) =>
      if flags.switch "help" || !c.runnable then .printed c.helpText
      else
        match args with
        | a :: _ =>
          if c.takesNoArguments then .failed (c.unknownCommand a) else m.runCommand c flags args
        | [] => m.runCommand c flags args

/-- Run the program on a command line: a completion request when its first command word asks
for one, else the command the line resolves to. -/
def run (m : Machine) (args : List String) : CliOutcome :=
  match CliCommand.root.commandWords args with
  | w :: _ =>
    if w == "__complete" || w == "__completeNoDesc" then
      m.complete (w == "__complete") (CliCommand.root.withoutWord w args)
    else m.runResolved args
  | [] => m.runResolved args

end Machine

end TradeLedger
