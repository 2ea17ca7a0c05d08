import TradeLedger.Yaml.Problem
import TradeLedger.Number.Read
import TradeLedger.Text.Base64
import TradeLedger.Text.Utf8
/-!
# Resolving YAML scalars

A plain untagged scalar gets the core-schema tag of what its text looks like (null, boolean,
integer, float, timestamp, else string); quoted and block scalars are strings. A schema tag
refuses a text that reads as something else, except that an integer is a float and any text a
string; other tags keep the text, and `!!binary` is base64.

## Main definitions

* `YamlScalar`: the values of scalars.
* `YamlScalar.resolve`: a tag and text resolved to a value.
-/

namespace TradeLedger

/-- The value of a scalar under its tag. Integers are kept in the range of a signed or an
unsigned 64-bit integer. -/
inductive YamlScalar where
  | null
  | bool (b : Bool)
  | int (i : Int)
  | float (x : Float)
  | timestamp
  | text (s : String)
  deriving Repr, Inhabited

namespace YamlScalar

/-- The prefix of the tags of the YAML schema. -/
def schemaPrefix : String := "tag:yaml.org,2002:"

/-- A tag in its short form: a schema tag as `!!name`, any other as it is. -/
def shortTag (tag : String) : String :=
  if tag.startsWith schemaPrefix then "!!" ++ String.ofList (tag.toList.drop schemaPrefix.length)
  else tag

/-- The tags that resolution reads a scalar under; the empty tag asks what the text looks
like. -/
def resolvable (tag : String) : Bool :=
  ["", "!!str", "!!bool", "!!int", "!!float", "!!null", "!!timestamp"].contains tag

/-- The words with a fixed meaning: null, the booleans, infinities and not-a-number. -/
def word? (text : String) : Option (String × YamlScalar) :=
  if ["", "~", "null", "Null", "NULL"].contains text then some ("!!null", .null)
  else if ["true", "True", "TRUE"].contains text then some ("!!bool", .bool true)
  else if ["false", "False", "FALSE"].contains text then some ("!!bool", .bool false)
  else if [".nan", ".NaN", ".NAN"].contains text then some ("!!float", .float (0 / 0))
  else if [".inf", ".Inf", ".INF", "+.inf", "+.Inf", "+.INF"].contains text then
    some ("!!float", .float (1 / 0))
  else if ["-.inf", "-.Inf", "-.INF"].contains text then some ("!!float", .float (-1 / 0))
  else none

/-- What the first character of a text suggests it is: `S` a sign, `D` a digit, `M` a word,
`.` a float, `N` the empty text; `none` a string. -/
def hint (text : String) : Option Char :=
  match text.toList with
  | [] => some 'N'
  | c :: _ =>
    if c == '+' || c == '-' then some 'S'
    else if c.isDigit then some 'D'
    else if "yYnNtTfFoO~".contains c then some 'M'
    else if c == '.' then some '.'
    else none

/-- The value of a digit or letter as a digit of a numeral in bases up to 36. -/
def digitValue (c : Char) : Nat :=
  if c.isDigit then c.toNat - 48
  else if 'a' ≤ c.toLower && c.toLower ≤ 'z' then c.toLower.toNat - 87
  else 99

/-- An unsigned numeral below 2^64 in `base`; with `prefixed`, the base is read from a prefix
instead (`0x`, `0o`, `0b`, a lone leading `0` for octal, else ten). -/
def unsignedIn (prefixed : Bool) (base : Nat) (s : List Char) : Option Nat :=
  if s.isEmpty then none
  else
    let (base, body) := if prefixed then
        match s with
        | '0' :: b :: rest@(_ :: _) =>
          if b.toLower == 'b' then (2, rest)
          else if b.toLower == 'o' then (8, rest)
          else if b.toLower == 'x' then (16, rest)
          else (8, b :: rest)
        | '0' :: rest => (8, rest)
        | _ => (10, s)
      else (base, s)
    let value := body.foldlM (fun acc c =>
      let d := digitValue c
      if d < base then some (acc * base + d) else none) 0
    value.bind fun n => if n < Nat.pow 2 64 then some n else none

/-- A signed numeral in the 64-bit range: an optional sign, then an unsigned numeral. -/
def signedIn (prefixed : Bool) (base : Nat) (s : List Char) : Option Int :=
  match s with
  | '-' :: rest =>
    (unsignedIn prefixed base rest).bind fun n =>
      if n ≤ Nat.pow 2 63 then some (-(n : Int)) else none
  | '+' :: rest =>
    (unsignedIn prefixed base rest).bind fun n => if n < Nat.pow 2 63 then some n else none
  | _ => (unsignedIn prefixed base s).bind fun n => if n < Nat.pow 2 63 then some n else none

/-- Whether a text is a float numeral in YAML's own style: an optional sign, digits with an
optional point and fraction (or a point and digits), and an optional exponent. -/
def yamlStyleFloat (cs : List Char) : Bool :=
  let cs := match cs with
    | '-' :: rest | '+' :: rest => rest
    | _ => cs
  let mantissa := cs.takeWhile fun c => c.isDigit || c == '.'
  let exponent := cs.drop mantissa.length
  let intDigits := mantissa.takeWhile Char.isDigit
  let mantissaOk := match mantissa.drop intDigits.length with
    | [] => !intDigits.isEmpty
    | '.' :: frac => frac.all Char.isDigit && (!intDigits.isEmpty || !frac.isEmpty)
    | _ => false
  let exponentOk := match exponent with
    | [] => true
    | 'e' :: rest | 'E' :: rest =>
      let digits := match rest with
        | '-' :: ds | '+' :: ds => ds
        | ds => ds
      !digits.isEmpty && digits.all Char.isDigit
    | _ => false
  mantissaOk && exponentOk

/-- One or two digits at the head of a text, as a number, and the rest. -/
def someDigits : List Char → Option (Nat × List Char)
  | a :: b :: rest =>
    if !a.isDigit then none
    else if b.isDigit then some ((a.toNat - 48) * 10 + (b.toNat - 48), rest)
    else some (a.toNat - 48, b :: rest)
  | [a] => if a.isDigit then some (a.toNat - 48, []) else none
  | [] => none

/-- The number of days in a month of a year of the Gregorian calendar. -/
def monthDays (year month : Nat) : Nat :=
  if month == 2 then
    if year % 4 == 0 && (year % 100 != 0 || year % 400 == 0) then 29 else 28
  else if [4, 6, 9, 11].contains month then 30
  else 31

/-- A calendar date at the head of a text: four digits of year, then a month and a day of one
or two digits each, joined by dashes. Gives the year, month, day and the rest. -/
def dateHead (cs : List Char) : Option (Nat × Nat × Nat × List Char) := do
  let year := cs.take 4
  if year.length != 4 || !year.all Char.isDigit then none
  let year := year.foldl (fun acc c => acc * 10 + (c.toNat - 48)) 0
  let rest ← match cs.drop 4 with
    | '-' :: rest => some rest
    | _ => none
  let (month, rest) ← someDigits rest
  let rest ← match rest with
    | '-' :: rest => some rest
    | _ => none
  let (day, rest) ← someDigits rest
  pure (year, month, day, rest)

/-- A time of day at the head of a text: hours, minutes and seconds of one or two digits each
joined by colons, then an optional fraction after a point or a comma. Gives the rest. -/
def timeHead (cs : List Char) : Option (List Char) := do
  let (hour, rest) ← someDigits cs
  let rest ← match rest with
    | ':' :: rest => some rest
    | _ => none
  let (minute, rest) ← someDigits rest
  let rest ← match rest with
    | ':' :: rest => some rest
    | _ => none
  let (second, rest) ← someDigits rest
  if hour ≥ 24 || minute ≥ 60 || second ≥ 60 then none
  match rest with
  | p :: d :: more =>
    if (p == '.' || p == ',') && d.isDigit then some (more.dropWhile Char.isDigit)
    else some rest
  | _ => some rest

/-- A zone at the head of a text: `Z`, or a sign, two digits of hours, a colon and two digits
of minutes. Gives the rest. -/
def zoneHead : List Char → Option (List Char)
  | 'Z' :: rest => some rest
  | s :: h1 :: h2 :: ':' :: m1 :: m2 :: rest =>
    if (s == '+' || s == '-') && [h1, h2, m1, m2].all Char.isDigit &&
        (h1.toNat - 48) * 10 + (h2.toNat - 48) ≤ 24 && (m1.toNat - 48) * 10 + (m2.toNat - 48) ≤ 60
    then some rest else none
  | _ => none

/-- Whether a text is a timestamp: a date, alone or followed by a time and a zone after `T`
or `t`, or by a time after spaces, naming a day that exists. -/
def isTimestamp (text : String) : Bool :=
  match dateHead text.toList with
  | none => false
  | some (year, month, day, rest) =>
    let shape := match rest with
      | [] => true
      | 'T' :: more | 't' :: more =>
        match (timeHead more).bind zoneHead with
        | some [] => true
        | _ => false
      | ' ' :: more => timeHead (more.dropWhile (· == ' ')) == some []
      | _ => false
    shape && 1 ≤ month && month ≤ 12 && 1 ≤ day && day ≤ monthDays year month

/-- A float numeral as a float, when it reads without overflow. -/
def floatOf (text : String) : Option Float :=
  match readFloatText text with
  | .ok x => some x
  | .error _ => none

/-- What a numeral-like text (one starting with a digit or a sign) is: a timestamp (when
`timestamps` allows), an integer, a float, or a binary or octal integer written with its prefix
after the sign. -/
def numeric (timestamps : Bool) (text : String) : Option (String × YamlScalar) :=
  if timestamps && isTimestamp text then some ("!!timestamp", .timestamp)
  else
    let plain := text.toList.filter (· != '_')
    let asInt := fun (i : Int) => some ("!!int", YamlScalar.int i)
    match signedIn true 10 plain with
    | some i => asInt i
    | none =>
    match unsignedIn true 10 plain with
    | some n => asInt n
    | none =>
    match (if yamlStyleFloat plain then floatOf (String.ofList plain) else none) with
    | some x => some ("!!float", .float x)
    | none =>
    match plain with
    | '0' :: 'b' :: rest =>
      match signedIn false 2 rest with
      | some i => asInt i
      | none => (unsignedIn false 2 rest).bind fun n => asInt n
    | '-' :: '0' :: 'b' :: rest => (signedIn false 2 ('-' :: rest)).bind asInt
    | '0' :: 'o' :: rest =>
      match signedIn false 8 rest with
      | some i => asInt i
      | none => (unsignedIn false 8 rest).bind fun n => asInt n
    | '-' :: '0' :: 'o' :: rest => (signedIn false 8 ('-' :: rest)).bind asInt
    | _ => none

/-- The tag and value a text has under a resolvable tag other than `!!str`, from what it looks
like. -/
def looks (tag text : String) : String × YamlScalar :=
  let found := match hint text with
    | none => none
    | some h =>
      match word? text with
      | some r => some r
      | none =>
        if h == '.' then (floatOf text).map fun x => ("!!float", YamlScalar.float x)
        else if h == 'D' || h == 'S' then numeric (tag == "" || tag == "!!timestamp") text
        else none
  found.getD ("!!str", .text text)

/-- The tag a plain scalar without an explicit tag gets from its text. -/
def plainTag (text : String) : String := (looks "" text).1

/-- The bytes of `!!binary` text: standard base64 with its padding, line breaks skipped. -/
def binary? (text : String) : Option String :=
  let cs := text.toList.filter fun c => c != '\r' && c != '\n'
  if cs.length % 4 != 0 then none
  else
    let body := (cs.reverse.dropWhile (· == '=')).reverse
    if cs.length - body.length > 2 then none
    else (Base64.decodeChars .standard false body).map Utf8.lossy

/-- The tag and value of a scalar with text `text` under tag `tag`. A string tag takes any
text; another tag of the schema must agree with what the text looks like, except that an
integer may be a float; tags outside the schema keep the text, decoding `!!binary`. -/
def resolve (tag text : String) : Except YamlProblem (String × YamlScalar) :=
  if tag == "!!str" then .ok ("!!str", .text text)
  else if tag == "!!binary" then
    match binary? text with
    | some s => .ok ("!!binary", .text s)
    | none => .error (YamlProblem.refused "!!binary value contains invalid base64 data")
  else if !resolvable tag then .ok (tag, .text text)
  else
    let (found, value) := looks tag text
    if tag == "" || tag == found then .ok (found, value)
    else match tag, value with
      | "!!float", .int i =>
        if i < Int.pow 2 63 then .ok ("!!float", .float (Float.ofInt i))
        else .error (YamlProblem.refused
          ("cannot decode " ++ found ++ " `" ++ text ++ "` as a " ++ tag))
      | _, _ => .error (YamlProblem.refused
          ("cannot decode " ++ found ++ " `" ++ text ++ "` as a " ++ tag))

end YamlScalar

end TradeLedger
