import TradeLedger.Text.Quote
import TradeLedger.Text.Utf8
/-!
# Reading URLs

A dialer reads its target as a URL before dialing, needing only the scheme, whether a user is
named, and the host with its port. Reading stops at the first thing that does not read: a
control byte, an empty scheme, a relative reference whose first segment holds a colon, a bad
authority, or a bad escape. A problem is reported after `parse` and the quoted text.

## Main definitions

* `Url.Parts`: what a dialer needs of a URL.
* `Url.read`: reading a URL, or its problem.
-/

namespace TradeLedger

namespace Url

/-- The parts of a URL, by how they escape. -/
inductive Part where
  | host
  | path
  | segment
  | user
  | fragment
  deriving Repr, DecidableEq, Inhabited

/-- Whether a byte is an ASCII letter or digit. -/
def isAlnum (b : UInt8) : Bool :=
  (48 ≤ b && b ≤ 57) || (65 ≤ b && b ≤ 90) || (97 ≤ b && b ≤ 122)

/-- Whether a byte is one of the characters of an ASCII text. -/
def isOneOf (chars : String) (b : UInt8) : Bool := (Utf8.encode chars).contains b

/-- The value of a hexadecimal digit. -/
def hexValue? (b : UInt8) : Option Nat :=
  if 48 ≤ b && b ≤ 57 then some (b.toNat - 48)
  else if 65 ≤ b && b ≤ 70 then some (b.toNat - 55)
  else if 97 ≤ b && b ≤ 102 then some (b.toNat - 87)
  else none

/-- Whether a part cannot hold a byte as it is. Letters and digits stand everywhere, and so do
`-_.~`; a host also holds the sub-delimiters, the colon of its port, the brackets of an address
and the angle brackets; of the reserved characters, a path escapes only `?`, a segment also
`/;,`, user information `@/?:`, and a fragment none, which also keeps `!()*`. -/
def mustEscape (part : Part) (b : UInt8) : Bool :=
  if isAlnum b then false
  else if part == .host && isOneOf "!$&'()*+,;=:[]<>\"" b then false
  else if isOneOf "-_.~" b then false
  else if isOneOf "$&+,/:;=?@" b then
    match part with
    | .path => b == 63
    | .segment => isOneOf "/;,?" b
    | .user => isOneOf "@/?:" b
    | .fragment => false
    | .host => true
  else if part == .fragment && isOneOf "!()*" b then false
  else true

/-- The message of an escape that does not read, given from its `%` on, at most three bytes. -/
def invalidEscape (bs : List UInt8) : String := "invalid URL escape " ++ quoteBytes (bs.take 3)

/-- The first escape of a part that does not read, or in a host, the first ASCII byte it
cannot hold. -/
def escapeProblem (part : Part) : List UInt8 → Option String
  | [] => none
  | 37 :: rest =>
    match rest with
    | h :: l :: more =>
      match hexValue? h, hexValue? l with
      | some vh, some _ =>
        if part == .host && vh < 8 && !(h == 50 && l == 53) then some (invalidEscape [37, h, l])
        else escapeProblem part more
      | _, _ => some (invalidEscape (37 :: rest))
    | _ => some (invalidEscape (37 :: rest))
  | b :: rest =>
    if part == .host && b < 0x80 && mustEscape .host b then
      some ("invalid character " ++ quoteBytes [b] ++ " in host name")
    else escapeProblem part rest

/-- The bytes of a text with its escapes decoded; a `%` that starts no escape stays. -/
def unescape : List UInt8 → List UInt8
  | 37 :: h :: l :: rest =>
    match hexValue? h, hexValue? l with
    | some vh, some vl => (vh * 16 + vl).toUInt8 :: unescape rest
    | _, _ => 37 :: unescape (h :: l :: rest)
  | b :: rest => b :: unescape rest
  | [] => []

/-- A text escaped to stand as a part: every byte the part cannot hold becomes `%` and two
upper-case hexadecimal digits. -/
def escape (part : Part) (s : String) : String :=
  let hex (n : Nat) : Char := "0123456789ABCDEF".toList.getD n '0'
  String.ofList ((Utf8.encode s).flatMap fun b =>
    if mustEscape part b then ['%', hex (b.toNat / 16), hex (b.toNat % 16)]
    else [Char.ofNat b.toNat])

/-- A text escaped to stand as one path segment. -/
def escapeSegment (s : String) : String := escape .segment s

/-- What a dialer needs of a URL: its scheme in lower case, whether it names a user, and its
host, port included, with escapes decoded. -/
structure Parts where
  scheme : String
  hasUser : Bool := false
  host : String := ""
  deriving Repr, Inhabited

/-- The position of the last occurrence of a byte. -/
def lastIndex? (bs : List UInt8) (b : UInt8) : Option Nat :=
  (bs.zipIdx.filter (·.1 == b)).getLast?.map (·.2)

/-- The bytes before the first occurrence of a byte and, when it occurs, the bytes after it. -/
def cut (bs : List UInt8) (b : UInt8) : List UInt8 × Option (List UInt8) :=
  match bs.findIdx? (· == b) with
  | some i => (bs.take i, some (bs.drop (i + 1)))
  | none => (bs, none)

/-- The scheme and the rest of a reference: letters, then letters, digits, `+`, `-` or `.`,
up to a colon. A reference that opens any other way has no scheme. -/
def schemeOf (bs : List UInt8) : Except String (List UInt8 × List UInt8) :=
  go bs []
where
  /-- Read the scheme with `acc` read so far. -/
  go : List UInt8 → List UInt8 → Except String (List UInt8 × List UInt8)
    | [], _ => .ok ([], bs)
    | b :: rest, acc =>
      if (65 ≤ b && b ≤ 90) || (97 ≤ b && b ≤ 122) then go rest (acc ++ [b])
      else if (48 ≤ b && b ≤ 57) || isOneOf "+-." b then
        if acc.isEmpty then .ok ([], bs) else go rest (acc ++ [b])
      else if b == 58 then
        if acc.isEmpty then .error "missing protocol scheme" else .ok (acc, rest)
      else .ok ([], bs)

/-- Whether a port suffix reads: empty, or a colon and digits. -/
def validPort : List UInt8 → Bool
  | [] => true
  | 58 :: digits => digits.all fun b => 48 ≤ b && b ≤ 57
  | _ => false

/-- The host of an authority, escapes decoded, or why it does not read. -/
def readHost (h : List UInt8) : Except String String := do
  let port := if h.head? == some 91 then
      match lastIndex? h 93 with
      | none => none
      | some i => some (h.drop (i + 1))
    else
      match lastIndex? h 58 with
      | some i => some (h.drop i)
      | none => some []
  match port with
  | none => throw "missing ']' in host"
  | some p =>
    if !validPort p then throw ("invalid port " ++ quoteBytes p ++ " after host")
  match escapeProblem .host h with
  | some e => throw e
  | none => pure (Utf8.lossy (unescape h))

/-- Whether user information holds only the bytes it may. -/
def validUser (bs : List UInt8) : Bool :=
  bs.all fun b => b ≥ 0x80 || isAlnum b || isOneOf "-._:~!$&'()*+,;=%@" b

/-- Whether an authority names a user, and its host, or why it does not read. -/
def readAuthority (a : List UInt8) : Except String (Bool × String) :=
  match lastIndex? a 64 with
  | none => do pure (false, ← readHost a)
  | some i => do
    let host ← readHost (a.drop (i + 1))
    let user := a.take i
    if !validUser user then throw "net/url: invalid userinfo"
    if let some e := escapeProblem .user user then throw e
    pure (true, host)

/-- The parts of a reference without its fragment, or why it does not read. -/
def readReference (u : List UInt8) : Except String Parts := do
  if u.any fun b => b < 0x20 || b == 0x7f then throw "net/url: invalid control character in URL"
  if u == [42] then return { scheme := "" }
  let (scheme, rest) ← schemeOf u
  let scheme := (Utf8.lossy scheme).toLower
  let rest := if rest.getLast? == some 63 && rest.count 63 == 1 then rest.dropLast
    else (cut rest 63).1
  if rest.head? != some 47 then
    if !scheme.isEmpty then return { scheme }
    if (cut rest 47).1.contains 58 then throw "first path segment in URL cannot contain colon"
  match rest with
  | 47 :: 47 :: after =>
    if !scheme.isEmpty || after.head? != some 47 then
      let (authority, path) := match after.findIdx? (· == 47) with
        | some i => (after.take i, after.drop i)
        | none => (after, [])
      let (hasUser, host) ← readAuthority authority
      if let some e := escapeProblem .path path then throw e
      return { scheme, hasUser, host }
    else
      if let some e := escapeProblem .path rest then throw e
      return { scheme }
  | _ =>
    if let some e := escapeProblem .path rest then throw e
    return { scheme }

/-- Read a URL, or say why it does not read, after `parse` and the quoted text read. -/
def read (text : String) : Except String Parts :=
  let bs := Utf8.encode text
  let (u, fragment) := cut bs 35
  match readReference u with
  | .error e => .error ("parse " ++ quoteBytes u ++ ": " ++ e)
  | .ok parts =>
    match fragment.bind (escapeProblem .fragment) with
    | some e => .error ("parse " ++ quoteBytes bs ++ ": " ++ e)
    | none => .ok parts

end Url

end TradeLedger
