import TradeLedger.Text.Utf8
/-!
# Blank characters

A blank is a character with the Unicode `White_Space` property. Trimming drops blanks from both
ends of a text; trimming bytes decodes the ends as UTF-8, and an invalid byte is no blank.

## Main definitions

* `Char.isBlank`: the blank characters.
* `String.trimBlank`: trimming a text.
-/

namespace TradeLedger

/-- The characters with the Unicode `White_Space` property. -/
def Char.isBlank (c : Char) : Bool :=
  let n := c.toNat
  (9 ≤ n && n ≤ 13) || n == 32 || n == 0x85 || n == 0xA0 || n == 0x1680 ||
    (0x2000 ≤ n && n ≤ 0x200A) || n == 0x2028 || n == 0x2029 || n == 0x202F ||
    n == 0x205F || n == 0x3000

/-- Drop leading and trailing blanks. -/
def String.trimBlank (s : String) : String :=
  String.ofList ((s.toList.dropWhile Char.isBlank).reverse.dropWhile Char.isBlank).reverse

namespace Utf8

/-- Drop leading blanks of a byte sequence. -/
def dropBlank : List UInt8 → List UInt8
  | [] => []
  | b :: rest =>
    let n := width b rest
    if n = 0 then b :: rest
    else if Char.isBlank (Char.ofNat (codePoint b rest n)) then dropBlank (rest.drop (n - 1))
    else b :: rest
termination_by bs => bs.length
decreasing_by all_goals simp_wf <;> omega

/-- The bytes of a trailing blank of `bs`, if `bs` ends in one: the last one to four bytes that
form a whole valid encoding of a blank. -/
def trailingBlankWidth (bs : List UInt8) : Nat :=
  let r := bs.reverse
  let tryWidth (k : Nat) : Bool :=
    match (r.take k).reverse with
    | b :: rest => k ≤ bs.length && width b rest == k &&
        Char.isBlank (Char.ofNat (codePoint b rest k))
    | [] => false
  if tryWidth 1 then 1 else if tryWidth 2 then 2 else if tryWidth 3 then 3 else 0

/-- Drop trailing blanks of a byte sequence, at most `fuel` of them. -/
def dropBlankEnd : Nat → List UInt8 → List UInt8
  | 0, bs => bs
  | fuel + 1, bs =>
    let k := trailingBlankWidth bs
    if k = 0 then bs else dropBlankEnd fuel (bs.take (bs.length - k))

/-- Drop leading and trailing blanks of a byte sequence. -/
def trimBlank (bs : List UInt8) : List UInt8 :=
  let front := dropBlank bs
  dropBlankEnd front.length front

end Utf8

end TradeLedger
