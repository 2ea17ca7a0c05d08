import TradeLedger.Cli.Tree
import TradeLedger.Text.Blank
/-!
# Shell completion requests

A shell asks what may follow a partly typed command line with the hidden command `__complete`
(or `__completeNoDesc`), whose words are the line so far, the last under the cursor. The answer
lists one completion a line, a tab before its description, then `:n`, a directive to the shell.
The words before the last resolve to a command as a run would. A word with a leading dash and no
`=` is completed to the flags not yet given; a word after a flag taking a value gets nothing;
else, before any positional argument, the subcommands starting with the word are offered. A flag
name can only be completed before a `--` that ends the flags.

## Main definitions

* `CompletionDirective`: what the answer tells the shell.
* `completions`, `completionOutput`: the completions of a line, and the answer's text.
-/

namespace TradeLedger

/-- What an answer tells the shell besides its completions: to fall back on its own file
completion or not. -/
inductive CompletionDirective where
  | fileDefault
  | noFiles
  deriving Repr, DecidableEq, Inhabited

namespace CompletionDirective

/-- The directive's number on the last line of an answer. -/
def code : CompletionDirective → Nat
  | .fileDefault => 0
  | .noFiles => 4

/-- The directive's name in the report on the error stream. -/
def name : CompletionDirective → String
  | .fileDefault => "ShellCompDirectiveDefault"
  | .noFiles => "ShellCompDirectiveNoFileComp"

end CompletionDirective

namespace CliCommand

/-- The commands under `c` whose names start with `word`, each with its description. -/
def commandOffers (c : CliCommand) (word : String) : List String :=
  (c.children.filter (·.name.startsWith word)).map fun d => d.name ++ "\t" ++ d.short

/-- The forms of a flag that start with `word`, each with the flag's usage. -/
def flagOffers (f : FlagSpec) (word : String) : List String :=
  let long := "--" ++ f.name
  (if long.startsWith word then [long ++ "\t" ++ f.usage] else []) ++
  match f.shorthand with
  | some c =>
    let short := "-" ++ String.singleton c
    if short.startsWith word then [short ++ "\t" ++ f.usage] else []
  | none => []

/-- Whether a word is written as a flag: a dash and a letter, or two dashes and a name. -/
def isFlagWord (w : String) : Bool :=
  let bs := Utf8.encode w
  (3 ≤ bs.length && w.startsWith "--") || (2 ≤ bs.length && bs.head? == some 45 && bs[1]? != some 45)

/-- The flag of a name written on a command line: a long name, or a one-letter shorthand. -/
def flagNamed? (c : CliCommand) (name : String) : Option FlagSpec :=
  match name.toList with
  | [ch] => c.flags.find? (·.shorthand == some ch)
  | _ => Flags.named? c.flags name

/-- The flag name written in a flag word up to `=` (or to its end): the long name after two
dashes, else the last shorthand. -/
def flagNameIn (written : String) : String :=
  if written.startsWith "--" then String.ofList (written.toList.drop 2)
  else match written.toList.getLast? with
    | some ch => String.singleton ch
    | none => ""

/-- How the word under the cursor is read: the words left for the command and what is being
completed. -/
inductive CompletionTarget where
  /-- a flag name -/
  | flagName
  /-- the value of a flag -/
  | flagValue
  /-- a command name or a positional argument -/
  | noun
  /-- a flag the command does not know -/
  | unknownFlag
  deriving Repr, DecidableEq, Inhabited

/-- What the word under the cursor completes, and the words of the command line to read as
flags and arguments. -/
def target (c : CliCommand) (rest : List String) (word : String) :
    CompletionTarget × List String :=
  if word.startsWith "-" then
    match word.splitOn "=" with
    | lead :: _ :: _ =>
      match c.flagNamed? (flagNameIn lead) with
      | some _ => (.flagValue, rest)
      | none => (.unknownFlag, rest)
    | _ => (.flagName, rest)
  else
    match rest.getLast? with
    | some prev =>
      if isFlagWord prev && !prev.contains '=' then
        match c.flagNamed? (flagNameIn prev) with
        | some f => if f.optionalValue then (.noun, rest) else (.flagValue, rest.dropLast)
        | none => (.unknownFlag, rest)
      else (.noun, rest)
    | none => (.noun, rest)

/-- The completions of the words after `__complete`, the last being the word under the cursor,
and the directive. -/
def completions (args : List String) : List String × CompletionDirective :=
  let word := args.getLastD ""
  match resolve args.dropLast with
  | .error _ => ([], .fileDefault)
  | .ok (c, rest) =>
    let (tgt, rest) := c.target rest word
    match Flags.parse c.flags rest, Flags.parse c.flags (rest ++ ["--"]) with
    | .ok (given, positional), .ok (_, closed) =>
      -- a `--` already given ends the flags, so the one added counts as an argument
      let flagsOpen := closed.length ≤ positional.length
      if tgt == .unknownFlag && flagsOpen then ([], .fileDefault)
      else if given.any (·.1 == "help") then ([], .noFiles)
      else if tgt == .flagName && flagsOpen then
        let open_ := c.flags.filter fun f => !given.any (·.1 == f.name)
        let sorted := open_.mergeSort fun a b => decide (a.name ≤ b.name)
        (sorted.flatMap (flagOffers · word), .noFiles)
      else if tgt == .flagValue && flagsOpen then ([], .fileDefault)
      else
        let noun := tgt != .flagValue
        let fromCommands := if noun && positional.isEmpty then c.commandOffers word else []
        let directive := if noun && positional.isEmpty && !c.children.isEmpty then .noFiles
          else .fileDefault
        match c with
        | .help =>
          let named := match resolve positional with
            | .ok (d, _) => d.commandOffers word
            | .error _ => []
          (fromCommands ++ named, .noFiles)
        | .completion | .completionFor _ => (fromCommands, .noFiles)
        | _ => (fromCommands, directive)
    | _, _ => ([], .fileDefault)

/-- The answer to a completion request: each completion on a line of its own (only its first
line, without its description unless `descriptions`, trimmed), then the directive's line; and
the report for the error stream. -/
def completionOutput (args : List String) (descriptions : Bool) : String × String :=
  let (offers, directive) := completions args
  let shown := offers.map fun o =>
    let o := if descriptions then o else (o.splitOn "\t").headD ""
    String.trimBlank ((o.splitOn "\n").headD "")
  (String.join (shown.map (· ++ "\n")) ++ ":" ++ toString directive.code ++ "\n",
    "Completion ended with directive: " ++ directive.name ++ "\n")

end CliCommand

end TradeLedger
