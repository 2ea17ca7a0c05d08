import TradeLedger.Text.Utf8
import TradeLedger.Text.Printable
/-!
# Quoted text

Messages quote the text they complain about between double quotes: a quote or backslash gets
a backslash, printable characters stand, the letter-escaped controls use their letter, other
controls and DEL are `\xNN`, other unprintables `\uNNNN` or `\UNNNNNNNN`, and a byte outside
valid UTF-8 `\xNN`. A plainly quoted text (messages about durations) escapes only bytes below
U+0020 or above U+007F, and quotes and backslashes.

## Main definitions

* `quoteText`, `quoteCodePoint`: quoting a text and a character.
* `quoteTextPlain`: the plain quoting.
-/

namespace TradeLedger

/-- Lower-case hex digits of `n`, padded with zeros to at least `width` digits. -/
def hexDigits (width n : Nat) : String :=
  let ds := Nat.toDigits 16 n
  String.ofList (List.replicate (width - ds.length) '0' ++ ds)

/-- The written form of `c` between quotes `q`. -/
def escapeChar (q : Char) (c : Char) : String :=
  if c == q || c == '\\' then String.ofList ['\\', c]
  else if Char.isPrintable c then String.singleton c
  else
    match c.toNat with
    | 7 => "\\a"
    | 8 => "\\b"
    | 12 => "\\f"
    | 10 => "\\n"
    | 13 => "\\r"
    | 9 => "\\t"
    | 11 => "\\v"
    | n =>
      if n < 32 || n == 127 then "\\x" ++ hexDigits 2 n
      else if n < 0x10000 then "\\u" ++ hexDigits 4 n
      else "\\U" ++ hexDigits 8 n

/-- The escaped body of a byte sequence between double quotes. -/
def quoteBody : List UInt8 → String
  | [] => ""
  | b :: rest =>
    let n := Utf8.width b rest
    if n = 0 then "\\x" ++ hexDigits 2 b.toNat ++ quoteBody rest
    else escapeChar '"' (Char.ofNat (Utf8.codePoint b rest n)) ++ quoteBody (rest.drop (n - 1))
termination_by bs => bs.length
decreasing_by all_goals simp_wf; all_goals omega

/-- A byte sequence between double quotes. -/
def quoteBytes (bs : List UInt8) : String := "\"" ++ quoteBody bs ++ "\""

/-- A text between double quotes. -/
def quoteText (s : String) : String := quoteBytes (Utf8.encode s)

/-- A code point between single quotes. -/
def quoteCodePoint (n : Nat) : String := "'" ++ escapeChar '\'' (Char.ofNat n) ++ "'"

def plainByte (b : UInt8) : String :=
  if b.toNat < 32 || 127 < b.toNat then "\\x" ++ hexDigits 2 b.toNat
  else if b == 34 || b == 92 then String.ofList ['\\', Char.ofNat b.toNat]
  else String.singleton (Char.ofNat b.toNat)

/-- A byte sequence between double quotes, quoted plainly. -/
def quoteBytesPlain (bs : List UInt8) : String :=
  "\"" ++ String.join (bs.map plainByte) ++ "\""

/-- A text between double quotes, quoted plainly. -/
def quoteTextPlain (s : String) : String := quoteBytesPlain (Utf8.encode s)

end TradeLedger
