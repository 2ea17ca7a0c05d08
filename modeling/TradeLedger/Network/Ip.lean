/-!
# IP address literals

An IPv4 address is four decimal fields joined by dots, each at most 255 with no leading zero; an
IPv6 address is eight groups of up to four hexadecimal digits joined by colons, where one `::`
may stand for groups of zeros and the last two groups may be an IPv4 address.

## Main definitions

* `isAddress`: whether a text is an address.
-/

namespace TradeLedger

namespace Ip

/-- Whether a text is an IPv4 address: four fields of one to three digits, none above 255,
and none with a leading zero. -/
def isIpv4 (s : String) : Bool :=
  let fields := s.splitOn "."
  fields.length == 4 && fields.all fun f =>
    let cs := f.toList
    !cs.isEmpty && cs.length ≤ 3 && cs.all Char.isDigit &&
      (cs.length == 1 || cs.head? != some '0') && f.toNat! ≤ 255

/-- Whether a text is a group of one to four hexadecimal digits. -/
def isGroup (g : String) : Bool :=
  let cs := g.toList
  !cs.isEmpty && cs.length ≤ 4 &&
    cs.all fun c => c.isDigit || ('a' ≤ c && c ≤ 'f') || ('A' ≤ c && c ≤ 'F')

/-- How many 16-bit groups a run of colon-separated groups holds, when it reads; the last group
may be an IPv4 address when `last` allows it, which holds two. -/
def groupCount (gs : List String) (last : Bool) : Option Nat :=
  match gs.reverse with
  | [] => some 0
  | g :: earlier =>
    let tail := if last && isIpv4 g then some 2 else if isGroup g then some 1 else none
    match tail with
    | some n => if earlier.all isGroup then some (n + earlier.length) else none
    | none => none

/-- Whether a text is an IPv6 address: eight groups, or fewer around one `::` standing for at
least one group of zeros. -/
def isIpv6 (s : String) : Bool :=
  let groups (t : String) : List String := if t.isEmpty then [] else t.splitOn ":"
  match s.splitOn "::" with
  | [whole] =>
    match groupCount (groups whole) true with
    | some n => n == 8
    | none => false
  | [before, after] =>
    match groupCount (groups before) false, groupCount (groups after) true with
    | some a, some b => a + b ≤ 7
    | _, _ => false
  | _ => false

/-- Whether a text is an IP address of either form. -/
def isAddress (s : String) : Bool := if s.contains ':' then isIpv6 s else isIpv4 s

end Ip

end TradeLedger
