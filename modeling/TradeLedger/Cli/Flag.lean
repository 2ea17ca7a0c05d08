import TradeLedger.Time.DurationRead
import TradeLedger.Time.DurationText
/-!
# Command-line flags

A command accepts named flags, each a switch, a text or a duration, perhaps with a one-letter
shorthand. `--name=value` and `--name value` set a flag, a switch needing no value; `--` ends
the flags; `-x` names a flag by its shorthand, several sharing one dash, and a shorthand taking
a value takes the rest of the word or the next one. Any other word is positional. A flag given
twice keeps its last value; an unknown flag, a missing value or one that does not read is an
error naming it.

## Main definitions

* `FlagSpec`, `FlagValues`: the flags a command accepts, and their values as read.
* `parse`: the flags and positional arguments of a command line.
* `usages`: the help's aligned list of flags.
-/

namespace TradeLedger

/-- The kinds of value a flag takes. -/
inductive FlagKind where
  | switch
  | text
  | duration
  deriving Repr, DecidableEq, Inhabited

/-- A flag a command accepts: its name, shorthand, kind, usage, and the text of its default. -/
structure FlagSpec where
  name : String
  shorthand : Option Char := none
  kind : FlagKind
  usage : String
  default : String := ""
  deriving Repr, Inhabited

inductive FlagValue where
  | switch (b : Bool)
  | text (s : String)
  | duration (d : Duration)
  deriving Repr, Inhabited

/-- Why a command line does not read. -/
inductive FlagError where
  /-- a word of dashes and an equals sign where a name should be -/
  | badSyntax (word : String)
  | unknown (name : String)
  /-- an unknown shorthand, with the shorthands from it on -/
  | unknownShorthand (shorthand : Nat) (rest : String)
  | needsValue (word : String)
  /-- a shorthand that needs a value and has none, with the shorthands from it on -/
  | shorthandNeedsValue (shorthand : Nat) (rest : String)
  /-- a value that does not read: the value, the flag as written in messages, and why -/
  | invalid (value : String) (flag : String) (reason : String)
  deriving Repr, Inhabited, DecidableEq

namespace FlagError

/-- The message of an error. -/
def text : FlagError → String
  | .badSyntax w => "bad flag syntax: " ++ w
  | .unknown n => "unknown flag: --" ++ n
  | .unknownShorthand c rest => "unknown shorthand flag: " ++ quoteCodePoint c ++ " in -" ++ rest
  | .needsValue w => "flag needs an argument: " ++ w
  | .shorthandNeedsValue c rest => "flag needs an argument: " ++ quoteCodePoint c ++ " in -" ++ rest
  | .invalid v f reason => "invalid argument " ++ quoteText v ++ " for " ++ quoteText f ++
      " flag: " ++ reason

end FlagError

/-- The flags given on a command line, in the order given. -/
abbrev FlagValues := List (String × FlagValue)

namespace FlagValues

/-- The last value given to a flag. -/
def last? (vs : FlagValues) (name : String) : Option FlagValue :=
  (vs.reverse.find? (·.1 == name)).map (·.2)

def switch (vs : FlagValues) (name : String) : Bool :=
  match vs.last? name with
  | some (.switch b) => b
  | _ => false

/-- A text flag's value, or `default`. -/
def text (vs : FlagValues) (name : String) (default : String) : String :=
  match vs.last? name with
  | some (.text s) => s
  | _ => default

/-- A duration flag's value, or `default`. -/
def duration (vs : FlagValues) (name : String) (default : Duration) : Duration :=
  match vs.last? name with
  | some (.duration d) => d
  | _ => default

end FlagValues

def readSwitch (s : String) : Except String Bool :=
  if ["1", "t", "T", "TRUE", "true", "True"].contains s then .ok true
  else if ["0", "f", "F", "FALSE", "false", "False"].contains s then .ok false
  else .error ("strconv.ParseBool: parsing " ++ quoteText s ++ ": invalid syntax")

namespace FlagSpec

/-- Whether a flag may be given without a value: switches only. -/
def optionalValue (f : FlagSpec) : Bool := f.kind == .switch

/-- The flag as messages name it: with its shorthand when it has one. -/
def written (f : FlagSpec) : String :=
  match f.shorthand with
  | some c => "-" ++ String.singleton c ++ ", --" ++ f.name
  | none => "--" ++ f.name

/-- Read a value for a flag. -/
def read (f : FlagSpec) (value : String) : Except FlagError FlagValue :=
  let refuse (reason : String) : Except FlagError FlagValue := .error (.invalid value f.written reason)
  match f.kind with
  | .switch =>
    match readSwitch value with
    | .ok b => .ok (.switch b)
    | .error e => refuse e
  | .text => .ok (.text value)
  | .duration =>
    match Duration.parse value with
    | .ok d => .ok (.duration d)
    | .error e => refuse e

/-- The name of the kind of value a flag takes, as the help shows it. -/
def valueName (f : FlagSpec) : String :=
  match f.kind with
  | .switch => ""
  | .text => "string"
  | .duration => "duration"

/-- Whether a flag's default is the zero value of its kind. -/
def zeroDefault (f : FlagSpec) : Bool :=
  match f.kind with
  | .switch => f.default == "false" || f.default.isEmpty
  | .text => f.default.isEmpty
  | .duration => f.default == "0s" || f.default == "0" || f.default.isEmpty

/-- A flag's line in the help, as the part before the usage column and the usage. -/
def usageParts (f : FlagSpec) : String × String :=
  let lead := match f.shorthand with
    | some c => "  -" ++ String.singleton c ++ ", --" ++ f.name
    | none => "      --" ++ f.name
  let lead := if f.valueName.isEmpty then lead else lead ++ " " ++ f.valueName
  let usage := if f.zeroDefault then f.usage
    else if f.kind == .text then f.usage ++ " (default " ++ quoteText f.default ++ ")"
    else f.usage ++ " (default " ++ f.default ++ ")"
  (lead, usage)

end FlagSpec

namespace Flags

/-- The flag of a name. -/
def named? (specs : List FlagSpec) (name : String) : Option FlagSpec :=
  specs.find? (·.name == name)

/-- The flag of a shorthand, given as a byte. -/
def ofShorthand? (specs : List FlagSpec) (c : Nat) : Option FlagSpec :=
  specs.find? fun f => f.shorthand.map Char.toNat == some c

/-- Whether the word after `--` names a flag that may go without a value. -/
def optionalLong (specs : List FlagSpec) (name : String) : Bool :=
  match named? specs name with
  | some f => f.optionalValue
  | none => false

/-- Whether the word after `-` starts with a shorthand that may go without a value. -/
def optionalShort (specs : List FlagSpec) (rest : String) : Bool :=
  match (Utf8.encode rest).head? with
  | some c =>
    match ofShorthand? specs c.toNat with
    | some f => f.optionalValue
    | none => false
  | none => false

/-- Read the shorthands of one word, given as bytes, with the words after it; the values set
and the words left. -/
def shorthands (specs : List FlagSpec) : List UInt8 → List String → FlagValues →
    Except FlagError (FlagValues × List String)
  | [], words, acc => .ok (acc, words)
  | c :: more, words, acc =>
    let here := Utf8.lossy (c :: more)
    match ofShorthand? specs c.toNat with
    | none => .error (.unknownShorthand c.toNat here)
    | some f =>
      match more with
      | 61 :: value@(_ :: _) =>
        -- `-x=value`
        match f.read (Utf8.lossy value) with
        | .ok v => .ok (acc ++ [(f.name, v)], words)
        | .error e => .error e
      | _ =>
        if f.optionalValue then
          match f.read "true" with
          | .ok v => shorthands specs more words (acc ++ [(f.name, v)])
          | .error e => .error e
        else if !more.isEmpty then
          match f.read (Utf8.lossy more) with
          | .ok v => .ok (acc ++ [(f.name, v)], words)
          | .error e => .error e
        else
          match words with
          | w :: rest =>
            match f.read w with
            | .ok v => .ok (acc ++ [(f.name, v)], rest)
            | .error e => .error e
          | [] => .error (.shorthandNeedsValue c.toNat here)

/-- Read one flag word `--…`, with the words after it; the value set and the words left. -/
def long (specs : List FlagSpec) (word : String) (words : List String) :
    Except FlagError (FlagValues × List String) :=
  let body := String.ofList (word.toList.drop 2)
  if body.isEmpty || body.startsWith "-" || body.startsWith "=" then .error (.badSyntax word)
  else
    let (name, value?) := match body.splitOn "=" with
      | n :: v :: more => (n, some ("=".intercalate (v :: more)))
      | _ => (body, none)
    match named? specs name with
    | none => .error (.unknown name)
    | some f =>
      match value? with
      | some v => (f.read v).map fun x => ([(f.name, x)], words)
      | none =>
        if f.optionalValue then (f.read "true").map fun x => ([(f.name, x)], words)
        else
          match words with
          | w :: rest => (f.read w).map fun x => ([(f.name, x)], rest)
          | [] => .error (.needsValue word)

/-- Sort a command line into flag values and positional arguments, both in order. -/
def parse (specs : List FlagSpec) (words : List String) :
    Except FlagError (FlagValues × List String) :=
  go words.length words [] []
where
  /-- Read at most `fuel` more words. -/
  go : Nat → List String → FlagValues → List String → Except FlagError (FlagValues × List String)
    | 0, rest, acc, args => .ok (acc, args ++ rest)
    | _, [], acc, args => .ok (acc, args)
    | fuel + 1, w :: rest, acc, args =>
      if w == "--" then .ok (acc, args ++ rest)
      else if w.startsWith "--" then
        match long specs w rest with
        | .ok (vs, rest) => go fuel rest (acc ++ vs) args
        | .error e => .error e
      else if w.startsWith "-" && w.length > 1 then
        match shorthands specs (Utf8.encode w).tail rest [] with
        | .ok (vs, rest) => go fuel rest (acc ++ vs) args
        | .error e => .error e
      else go fuel rest acc (args ++ [w])

/-- The lines of flags in a command's help, sorted by name, usages aligned one column after the
longest flag, each line ending in a newline. -/
def usages (specs : List FlagSpec) : String :=
  let parts := (specs.mergeSort fun a b => decide (a.name ≤ b.name)).map FlagSpec.usageParts
  let width := (parts.map fun p => p.1.length + 1).foldl max 0
  String.join (parts.map fun (lead, usage) =>
    lead ++ " " ++ String.ofList (List.replicate (width - lead.length) ' ') ++ " " ++ usage ++ "\n")

end Flags

end TradeLedger
