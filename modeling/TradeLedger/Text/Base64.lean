/-!
# Base64

Bytes as text over a 64-letter alphabet: every three bytes become four letters. The standard
alphabet ends in `+` and `/` and pads the last group with `=`; the URL alphabet ends in `-` and
`_` and, as tokens use it, writes no padding.

## Main definitions

* `Base64.encode`, `Base64.decode?`: writing and reading bytes.
-/

namespace TradeLedger

namespace Base64

/-- The two alphabets: standard (padded) and URL-safe (unpadded). -/
inductive Alphabet where
  | standard
  | url
  deriving Repr, DecidableEq

/-- The letter of a six-bit value. -/
def letter (a : Alphabet) (n : Nat) : Char :=
  if n < 26 then Char.ofNat (65 + n)
  else if n < 52 then Char.ofNat (97 + n - 26)
  else if n < 62 then Char.ofNat (48 + n - 52)
  else if n == 62 then (if a == .standard then '+' else '-')
  else (if a == .standard then '/' else '_')

/-- The six-bit value of a letter. -/
def value? (a : Alphabet) (c : Char) : Option Nat :=
  if 'A' ≤ c ∧ c ≤ 'Z' then some (c.toNat - 65)
  else if 'a' ≤ c ∧ c ≤ 'z' then some (c.toNat - 97 + 26)
  else if '0' ≤ c ∧ c ≤ '9' then some (c.toNat - 48 + 52)
  else if c == (if a == .standard then '+' else '-') then some 62
  else if c == (if a == .standard then '/' else '_') then some 63
  else none

/-- Encode bytes, three at a time. -/
def encodeChars (a : Alphabet) : List UInt8 → List Char
  | [] => []
  | [x] =>
    let n := x.toNat * 65536
    let body := [letter a (n / 262144 % 64), letter a (n / 4096 % 64)]
    if a == .standard then body ++ ['=', '='] else body
  | [x, y] =>
    let n := x.toNat * 65536 + y.toNat * 256
    let body := [letter a (n / 262144 % 64), letter a (n / 4096 % 64), letter a (n / 64 % 64)]
    if a == .standard then body ++ ['='] else body
  | x :: y :: z :: rest =>
    let n := x.toNat * 65536 + y.toNat * 256 + z.toNat
    [letter a (n / 262144 % 64), letter a (n / 4096 % 64), letter a (n / 64 % 64),
      letter a (n % 64)] ++ encodeChars a rest

/-- The text of bytes. -/
def encode (a : Alphabet) (bs : List UInt8) : String := String.ofList (encodeChars a bs)

/-- Decode groups of letters, padding already removed; when `strict`, the unused bits of a
last short group must be zero. -/
def decodeChars (a : Alphabet) (strict : Bool) : List Char → Option (List UInt8)
  | [] => some []
  | [_] => none
  | [c1, c2] => do
    let n := (← value? a c1) * 262144 + (← value? a c2) * 4096
    if strict && n / 256 % 256 != 0 then none else pure [UInt8.ofNat (n / 65536)]
  | [c1, c2, c3] => do
    let n := (← value? a c1) * 262144 + (← value? a c2) * 4096 + (← value? a c3) * 64
    if strict && n % 256 != 0 then none
    else pure [UInt8.ofNat (n / 65536), UInt8.ofNat (n / 256 % 256)]
  | c1 :: c2 :: c3 :: c4 :: rest => do
    let n := (← value? a c1) * 262144 + (← value? a c2) * 4096 + (← value? a c3) * 64 +
      (← value? a c4)
    let tail ← decodeChars a strict rest
    pure ([UInt8.ofNat (n / 65536), UInt8.ofNat (n / 256 % 256), UInt8.ofNat (n % 256)] ++ tail)

/-- The bytes of a base64 text. The standard alphabet needs its padding; the URL alphabet
takes none. -/
def decode? (a : Alphabet) (s : String) : Option (List UInt8) :=
  let cs := s.toList
  match a with
  | .url => decodeChars a true cs
  | .standard =>
    if cs.length % 4 != 0 then none
    else
      let body := (cs.reverse.dropWhile (· == '=')).reverse
      if cs.length - body.length > 2 then none else decodeChars a true body

/-- The bytes of an unpadded base64 text read leniently: carriage returns and line feeds are
skipped wherever they stand, and the unused bits of a last short group are ignored. -/
def decodeLenient? (a : Alphabet) (s : String) : Option (List UInt8) :=
  decodeChars a false (s.toList.filter fun c => c != '\r' && c != '\n')

end Base64

end TradeLedger
