import TradeLedger.Number.Read
import TradeLedger.Text.Utf8
/-!
# Scanning frame bytes

Frames from the venue are read by a lenient reader. A byte `0` ends the input wherever it stands.
A value no record member asks for is skipped without being checked in detail: brackets counted
outside strings, a string to its closing quote, a number as any run of digits, points, signs and
`e`. Nesting deeper than 10000 brackets is refused. A string that is read is checked, and a
surrogate half without its partner reads as U+FFFD.

## Main definitions

* `skipValue`, `readRaw`: skipping and reading a value.
* `readString`: a string's text.
-/

namespace TradeLedger

/-- Why a frame could not be read. -/
inductive FrameFault where
  /-- the reader refused the bytes; its own wording is not part of the contract -/
  | refused
  /-- a number field's text does not read -/
  | numeral (f : NumeralFailure)
  deriving Repr, DecidableEq

/-- The text of a fault. -/
def FrameFault.message : FrameFault → String
  | .refused => "<json>"
  | .numeral f => f.message

namespace Frame

/-- Deepest nesting the reader accepts. -/
def maxDepth : Nat := 10000

/-- JSON blanks. -/
def isWs (b : UInt8) : Bool := b == 32 || b == 9 || b == 10 || b == 13

/-- Drop leading blanks. -/
def skipWs (bs : List UInt8) : List UInt8 := bs.dropWhile isWs

/-- The byte under the cursor, `0` past the end. -/
def peek : List UInt8 → UInt8
  | [] => 0
  | b :: _ => b

/-- Bytes that may continue a skipped number. -/
def isNumberByte (b : UInt8) : Bool :=
  (48 ≤ b && b ≤ 57) || b == 46 || b == 101 || b == 69 || b == 43 || b == 45

/-- The bytes of an ASCII word. -/
def word (s : String) : List UInt8 := s.toUTF8.toList

/-- Skip the rest of a literal whose first byte was read. -/
def skipLiteral (tail : List UInt8) (bs : List UInt8) : Except FrameFault (List UInt8) :=
  if bs.take tail.length == tail then .ok (bs.drop tail.length) else .error .refused

/-- Skip the body of a string whose opening quote was read, up to and past its closing quote. -/
def skipStringBody : List UInt8 → Except FrameFault (List UInt8)
  | [] => .error .refused
  | b :: rest =>
    if b == 0 then .error .refused
    else if b == 34 then .ok rest
    else if b == 92 then
      match rest with
      | [] => .error .refused
      | c :: rest' => if c == 0 then .error .refused else skipStringBody rest'
    else skipStringBody rest

/-- Skip the rest of an object or array whose opening bracket was read: only brackets of its
own kind (`opener`, `closer`) are counted, strings are stepped over, every bracket counts
towards the depth. -/
def skipNested (opener closer : UInt8) : Nat → Nat → Bool → Bool → List UInt8 →
    Except FrameFault (List UInt8)
  | _, _, _, _, [] => .error .refused
  | count, depth, inString, escaped, b :: rest =>
    if b == 0 then .error .refused
    else if inString then
      if escaped then skipNested opener closer count depth true false rest
      else if b == 92 then skipNested opener closer count depth true true rest
      else if b == 34 then skipNested opener closer count depth false false rest
      else skipNested opener closer count depth true false rest
    else if b == 34 then skipNested opener closer count depth true false rest
    else if b == opener then
      if maxDepth < depth + 1 then .error .refused
      else skipNested opener closer (count + 1) (depth + 1) false false rest
    else if b == closer then
      if count ≤ 1 then .ok rest
      else skipNested opener closer (count - 1) (depth - 1) false false rest
    else if b == 123 || b == 91 then
      if maxDepth < depth + 1 then .error .refused
      else skipNested opener closer count (depth + 1) false false rest
    else if b == 125 || b == 93 then skipNested opener closer count (depth - 1) false false rest
    else skipNested opener closer count depth false false rest

/-- Skip one value after blanks, at nesting `depth`. -/
def skipValue (depth : Nat) (bs : List UInt8) : Except FrameFault (List UInt8) :=
  match skipWs bs with
  | [] => .error .refused
  | b :: rest =>
    if b == 123 then
      if maxDepth < depth + 1 then .error .refused else skipNested 123 125 1 (depth + 1) false false rest
    else if b == 91 then
      if maxDepth < depth + 1 then .error .refused else skipNested 91 93 1 (depth + 1) false false rest
    else if b == 34 then skipStringBody rest
    else if b == 45 || (48 ≤ b && b ≤ 57) then .ok (rest.dropWhile isNumberByte)
    else if b == 116 then skipLiteral (word "rue") rest
    else if b == 102 then skipLiteral (word "alse") rest
    else if b == 110 then skipLiteral (word "ull") rest
    else .error .refused

/-- The bytes of the next value, after blanks, and the rest. -/
def readRaw (depth : Nat) (bs : List UInt8) : Except FrameFault (List UInt8 × List UInt8) := do
  let start := skipWs bs
  let rest ← skipValue depth start
  pure (start.take (start.length - rest.length), rest)

def hexValue (b : UInt8) : Option Nat :=
  if 48 ≤ b && b ≤ 57 then some (b.toNat - 48)
  else if 97 ≤ b && b ≤ 102 then some (b.toNat - 87)
  else if 65 ≤ b && b ≤ 70 then some (b.toNat - 55)
  else none

/-- Four hex digits at the head of the bytes. -/
def hex4 : List UInt8 → Option Nat
  | a :: b :: c :: d :: _ =>
    match hexValue a, hexValue b, hexValue c, hexValue d with
    | some a, some b, some c, some d => some (((a * 16 + b) * 16 + c) * 16 + d)
    | _, _, _, _ => none
  | _ => none

/-- The UTF-8 bytes of a code point. -/
def encodePoint (n : Nat) : List UInt8 := Utf8.encode (String.singleton (Char.ofNat n))

/-- The body of a string whose opening quote was read: the bytes it stands for, and the rest
after the closing quote. The accumulator holds the bytes read so far, reversed. -/
def stringBody : Nat → List UInt8 → List UInt8 → Except FrameFault (List UInt8 × List UInt8)
  | 0, _, _ => .error .refused
  | _, _, [] => .error .refused
  | fuel + 1, acc, b :: rest =>
    if b == 0 then .error .refused
    else if b == 34 then .ok (acc.reverse, rest)
    else if b != 92 then stringBody fuel (b :: acc) rest
    else
      match rest with
      | [] => .error .refused
      | c :: rest' =>
        let simple : Option UInt8 :=
          if c == 34 then some 34 else if c == 92 then some 92 else if c == 47 then some 47
          else if c == 98 then some 8 else if c == 102 then some 12 else if c == 110 then some 10
          else if c == 114 then some 13 else if c == 116 then some 9 else none
        match simple with
        | some x => stringBody fuel (x :: acc) rest'
        | none =>
          if c != 117 then .error .refused
          else
            match hex4 rest' with
            | none => .error .refused
            | some hi =>
              let after := rest'.drop 4
              if 0xD800 ≤ hi ∧ hi < 0xDC00 then
                match after with
                | 92 :: 117 :: more =>
                  match hex4 more with
                  | some lo =>
                    if 0xDC00 ≤ lo ∧ lo < 0xE000 then
                      let joined := 0x10000 + (hi - 0xD800) * 1024 + (lo - 0xDC00)
                      stringBody fuel ((encodePoint joined).reverse ++ acc) (more.drop 4)
                    else stringBody fuel ((encodePoint 0xFFFD).reverse ++ acc) after
                  | none => stringBody fuel ((encodePoint 0xFFFD).reverse ++ acc) after
                | _ => stringBody fuel ((encodePoint 0xFFFD).reverse ++ acc) after
              else if 0xDC00 ≤ hi ∧ hi < 0xE000 then
                stringBody fuel ((encodePoint 0xFFFD).reverse ++ acc) after
              else stringBody fuel ((encodePoint hi).reverse ++ acc) after

/-- The next value as a string: `some` bytes for a string, `none` for `null`; any other value
is refused. -/
def readString (bs : List UInt8) : Except FrameFault (Option (List UInt8) × List UInt8) :=
  match skipWs bs with
  | [] => .error .refused
  | b :: rest =>
    if b == 34 then do
      let (s, r) ← stringBody (rest.length + 1) [] rest
      pure (some s, r)
    else if b == 110 then do
      let r ← skipLiteral (word "ull") rest
      pure (none, r)
    else .error .refused

/-- After a whole value: only blanks may follow before the end (or a `0` byte). -/
def atEnd (bs : List UInt8) : Bool :=
  match skipWs bs with
  | [] => true
  | b :: _ => b == 0

/-- Read a whole input with `read`, requiring nothing but blanks after it. -/
def readWhole {α : Type} (read : List UInt8 → Except FrameFault (α × List UInt8))
    (bs : List UInt8) : Except FrameFault α := do
  let (v, rest) ← read bs
  if atEnd rest then pure v else .error .refused

end Frame

end TradeLedger
