import TradeLedger.Cli.Flag
import TradeLedger.Text.Fold
/-!
# The command tree

The program `ledger-sync` has commands to print its version, issue an admin token, run one
reconciliation pass, and serve; `help` explains any command and `completion` groups one command
per shell. A command line resolves to a command by its words that are not flags, each naming a
subcommand, a flag taking a value without `=` taking the next word. A word left over at the top
is unknown, and the commands within two edits of it, or starting with it, are offered.

## Main definitions

* `CliCommand`: a command of the tree, with its flags and descriptions.
* `resolve`: the command a line names.
* `helpText`: a command's help.
-/

namespace TradeLedger

/-- The shells a completion script can be written for. -/
inductive Shell where
  | bash
  | fish
  | powershell
  | zsh
  deriving Repr, DecidableEq, Inhabited

def Shell.name : Shell → String
  | .bash => "bash"
  | .fish => "fish"
  | .powershell => "powershell"
  | .zsh => "zsh"

/-- The commands of the program. -/
inductive CliCommand where
  | root
  | version
  | token
  | reconcile
  | serve
  | help
  | completion
  | completionFor (shell : Shell)
  deriving Repr, DecidableEq, Inhabited

namespace CliCommand

def programName : String := "ledger-sync"

def name : CliCommand → String
  | .root => programName
  | .version => "version"
  | .token => "token"
  | .reconcile => "reconcile"
  | .serve => "serve"
  | .help => "help"
  | .completion => "completion"
  | .completionFor s => s.name

/-- The command a command sits under. -/
def parent? : CliCommand → Option CliCommand
  | .root => none
  | .completionFor _ => some .completion
  | _ => some .root

/-- The commands under a command, sorted by name. -/
def children : CliCommand → List CliCommand
  | .root => [.completion, .help, .reconcile, .serve, .token, .version]
  | .completion => [.completionFor .bash, .completionFor .fish, .completionFor .powershell,
      .completionFor .zsh]
  | _ => []

/-- The names that lead from the program to a command. -/
def path : CliCommand → String
  | .completionFor s => programName ++ " completion " ++ s.name
  | .root => programName
  | c => programName ++ " " ++ c.name

/-- How a command is called, after its parent's path. -/
def use : CliCommand → String
  | .help => "help [command]"
  | c => c.name

/-- The one-line description of a command. -/
def short : CliCommand → String
  | .root => "Keeps a trade ledger consistent with a Binance futures account"
  | .version => "Print the version number"
  | .token => "Issue an admin API token signed with JWT_SECRET"
  | .reconcile => "Run one reconciliation pass and print the report"
  | .serve => "Stream the account into the ledger and serve the admin API"
  | .help => "Help about any command"
  | .completion => "Generate the autocompletion script for the specified shell"
  | .completionFor s => "Generate the autocompletion script for " ++ s.name

/-- The description of a command in its help, empty when the short one serves. -/
def long : CliCommand → String
  | .root =>
    "ledger-sync streams the account's user data into a local trade ledger,\n" ++
    "aggregates live trades into positions, guards new trades against conflicting\n" ++
    "positions and reconciles realized pnl of closed trades against venue history."
  | .reconcile =>
    "Matches CLOSED trades of the lookback window against the venue's position\n" ++
    "history and corrects stored realized pnl that differs materially.\n\n" ++
    "Example:\n  ledger-sync reconcile --lookback 48h --dry-run"
  | .serve =>
    "Opens the private user-data stream and the public mark price streams,\n" ++
    "applies every event to the ledger, runs the cooldown sweeper and the periodic\n" ++
    "reconciliation, and serves the admin API until interrupted."
  | .help =>
    "Help provides help for any command in the application.\n" ++
    "Simply type ledger-sync help [path to command] for full details."
  | .completion =>
    "Generate the autocompletion script for ledger-sync for the specified shell.\n" ++
    "See each sub-command's help for details on how to use the generated script.\n"
  | .completionFor .bash =>
    "Generate the autocompletion script for the bash shell.\n\n" ++
    "This script depends on the 'bash-completion' package.\n" ++
    "If it is not installed already, you can install it via your OS's package manager.\n\n" ++
    "To load completions in your current shell session:\n\n" ++
    "\tsource <(ledger-sync completion bash)\n\n" ++
    "To load completions for every new session, execute once:\n\n" ++
    "#### Linux:\n\n" ++
    "\tledger-sync completion bash > /etc/bash_completion.d/ledger-sync\n\n" ++
    "#### macOS:\n\n" ++
    "\tledger-sync completion bash > $(brew --prefix)/etc/bash_completion.d/ledger-sync\n\n" ++
    "You will need to start a new shell for this setup to take effect.\n"
  | .completionFor .zsh =>
    "Generate the autocompletion script for the zsh shell.\n\n" ++
    "If shell completion is not already enabled in your environment you will need\n" ++
    "to enable it.  You can execute the following once:\n\n" ++
    "\techo \"autoload -U compinit; compinit\" >> ~/.zshrc\n\n" ++
    "To load completions in your current shell session:\n\n" ++
    "\tsource <(ledger-sync completion zsh)\n\n" ++
    "To load completions for every new session, execute once:\n\n" ++
    "#### Linux:\n\n" ++
    "\tledger-sync completion zsh > \"$\x7bfpath[1]\x7d/_ledger-sync\"\n\n" ++
    "#### macOS:\n\n" ++
    "\tledger-sync completion zsh > $(brew --prefix)/share/zsh/site-functions/_ledger-sync\n\n" ++
    "You will need to start a new shell for this setup to take effect.\n"
  | .completionFor .fish =>
    "Generate the autocompletion script for the fish shell.\n\n" ++
    "To load completions in your current shell session:\n\n" ++
    "\tledger-sync completion fish | source\n\n" ++
    "To load completions for every new session, execute once:\n\n" ++
    "\tledger-sync completion fish > ~/.config/fish/completions/ledger-sync.fish\n\n" ++
    "You will need to start a new shell for this setup to take effect.\n"
  | .completionFor .powershell =>
    "Generate the autocompletion script for powershell.\n\n" ++
    "To load completions in your current shell session:\n\n" ++
    "\tledger-sync completion powershell | Out-String | Invoke-Expression\n\n" ++
    "To load completions for every new session, add the output of the above command\n" ++
    "to your powershell profile.\n"
  | _ => ""

/-- The flags of a command besides its help switch. -/
def ownFlags : CliCommand → List FlagSpec
  | .token =>
    [{ name := "operator", kind := .text,
       usage := "operator name recorded in the token (required)" },
     { name := "ttl", kind := .duration, usage := "token lifetime", default := "24h0m0s" }]
  | .reconcile =>
    [{ name := "lookback", kind := .duration, default := "0s",
       usage := "how far back to examine closed trades (default from config)" },
     { name := "trader", kind := .text, usage := "restrict the run to one trader" },
     { name := "dry-run", kind := .switch, default := "false",
       usage := "report corrections without writing them" }]
  | .completionFor _ =>
    [{ name := "no-descriptions", kind := .switch, default := "false",
       usage := "disable completion descriptions" }]
  | _ => []

/-- The flags of a command, its help switch included. -/
def flags (c : CliCommand) : List FlagSpec :=
  let helpSwitch : FlagSpec :=
    { name := "help", shorthand := some 'h', kind := .switch, default := "false"
      usage := "help for " ++ c.name }
  c.ownFlags ++ [helpSwitch]

/-- Whether a command runs something; the others only explain themselves. -/
def runnable : CliCommand → Bool
  | .root | .completion => false
  | _ => true

/-- Whether a command's help lists it among its parent's commands: every command but help. -/
def listed : CliCommand → Bool
  | .help => false
  | _ => true

/-- Whether a command takes no positional arguments at all. -/
def takesNoArguments : CliCommand → Bool
  | .completionFor _ => true
  | _ => false

/-- The subcommand a word names exactly. -/
def child? (c : CliCommand) (word : String) : Option CliCommand :=
  c.children.find? (·.name == word)

/-- Whether a word is a flag of command `c` that takes the next word as its value: a flag
written without `=` that is not a switch, or that `c` does not know. -/
def takesNextWord (c : CliCommand) (w : String) : Bool :=
  (w.startsWith "--" && !w.contains '=' &&
    !Flags.optionalLong c.flags (String.ofList (w.toList.drop 2))) ||
  (w.startsWith "-" && !w.contains '=' && w.length == 2 &&
    !Flags.optionalShort c.flags (String.ofList (w.toList.drop 1)))

/-- The words of a command line that may name commands, as command `c` reads it: words that are
not flags, and not the value of a flag that takes one and is written without `=`; `--` ends
them. -/
def commandWords (c : CliCommand) : List String → List String
  | [] => []
  | w :: rest =>
    if w == "--" then []
    else if c.takesNextWord w then
      match rest with
      | _ :: more => commandWords c more
      | [] => []
    else if w != "" && !w.startsWith "-" then w :: commandWords c rest
    else commandWords c rest

/-- The command line without the first word that names `word` where a command may stand, as
command `c` reads it. -/
def withoutWord (c : CliCommand) (word : String) : List String → List String
  | [] => []
  | w :: rest =>
    if w == "--" then w :: rest
    else if c.takesNextWord w then
      match rest with
      | v :: more => w :: v :: withoutWord c word more
      | [] => [w]
    else if !w.startsWith "-" && w == word then rest
    else w :: withoutWord c word rest

/-- The command a command line calls from `c`, with the words left for it to read. The tree is
at most `depth` deep. -/
def resolveFrom : Nat → CliCommand → List String → CliCommand × List String
  | 0, c, args => (c, args)
  | depth + 1, c, args =>
    match c.commandWords args with
    | [] => (c, args)
    | w :: _ =>
      match c.child? w with
      | some d => resolveFrom depth d (c.withoutWord w args)
      | none => (c, args)

/-- The edit distance between two texts, ignoring case, counted in bytes of their lower case. -/
def editDistance (a b : String) : Nat :=
  let xs := Utf8.encode (String.toLowerSimple a)
  let ys := Utf8.encode (String.toLowerSimple b)
  let first := List.range (ys.length + 1)
  let row (prev : List Nat) (ix : Nat × UInt8) : List Nat :=
    let (i, x) := ix
    let cells := (ys.zip (prev.zip prev.tail)).foldl (fun (acc : List Nat) (y, diag, up) =>
      let left := acc.getLastD (i + 1)
      let cost := if x == y then diag else (min (min up left) diag) + 1
      acc ++ [cost]) [i + 1]
    cells
  ((xs.zip (List.range xs.length)).map (fun (x, i) => (i, x)) |>.foldl row first).getLastD 0

/-- The commands offered for a word that names none: those listed whose names lie within two
edits of it or start with it, ignoring case. -/
def suggestions (c : CliCommand) (word : String) : List String :=
  (c.children.filter fun d => d.listed &&
    (editDistance word d.name ≤ 2 ||
      (String.toLowerSimple d.name).startsWith (String.toLowerSimple word))).map name

/-- The message of a word that names no command under `c`. -/
def unknownCommand (c : CliCommand) (word : String) : String :=
  let offered := match c.suggestions word with
    | [] => ""
    | names => "\n\nDid you mean this?\n" ++ String.join (names.map fun n => "\t" ++ n ++ "\n")
  "unknown command " ++ quoteText word ++ " for " ++ quoteText c.path ++ offered

/-- The command a command line calls, with the words left for it, or the message of a word
that names no command. -/
def resolve (args : List String) : Except String (CliCommand × List String) :=
  let (c, rest) := resolveFrom 3 .root args
  match c, c.commandWords rest with
  | .root, w :: _ => .error (CliCommand.root.unknownCommand w)
  | _, _ => .ok (c, rest)

/-- Drop trailing blanks and line breaks. -/
def trimTrailing (s : String) : String :=
  String.ofList (s.toList.reverse.dropWhile Char.isWhitespace).reverse

/-- How a command is called, as its usage shows it. -/
def useLine (c : CliCommand) : String :=
  let line := match c.parent? with
    | some p => p.path ++ " " ++ c.use
    | none => c.use
  match c with
  | .completionFor _ => line
  | _ => line ++ " [flags]"

/-- The usage of a command: how to call it, the commands under it, its flags, and where to
look next. -/
def usageText (c : CliCommand) : String :=
  let listed := c.children.filter (·.listed)
  let pad := (c.children.map fun d => d.name.length).foldl max 11
  let commands :=
    if listed.isEmpty then ""
    else "\n\nAvailable Commands:" ++ String.join (c.children.map fun d =>
      "\n  " ++ d.name ++ String.ofList (List.replicate (pad - d.name.length) ' ') ++ " " ++ d.short)
  "Usage:" ++
    (if c.runnable then "\n  " ++ c.useLine else "") ++
    (if listed.isEmpty then "" else "\n  " ++ c.path ++ " [command]") ++
    commands ++
    "\n\nFlags:\n" ++ trimTrailing (Flags.usages c.flags) ++
    (if listed.isEmpty then ""
     else "\n\nUse \"" ++ c.path ++ " [command] --help\" for more information about a command.") ++
    "\n"

/-- The help of a command: its description, then its usage. -/
def helpText (c : CliCommand) : String :=
  let about := if c.long.isEmpty then c.short else c.long
  (if about.isEmpty then "" else trimTrailing about ++ "\n\n") ++ c.usageText

end CliCommand

end TradeLedger
