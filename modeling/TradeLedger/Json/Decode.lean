import TradeLedger.Json.Value
import TradeLedger.Text.Quote
/-!
# Decoding the first JSON value of a stream

A request body is read as a streaming decoder reads it: blanks, then one value, the rest left
unread. The first byte that cannot stand where it stands stops the reading with a message naming
it, as its character between single quotes, and what was expected there (such as
`looking for beginning of value` or `in string escape code`). A stream of blanks ends with `EOF`,
one ending inside a value with `unexpected EOF`.

## Main definitions

* `Stop`: where and why the reading stopped.
* `decodeFirst`: the first value of a stream.
-/

namespace TradeLedger

namespace Json

namespace Decoder

/-- Why a reading stopped: the input ended inside a value, or a byte cannot stand where it
stands. -/
inductive Stop where
  | ended
  | invalid (message : String)
  deriving Repr, Inhabited

/-- A byte that cannot stand where it stands, with what was expected there. -/
def refuse {α : Type} (b : UInt8) (context : String) : Except Stop α :=
  .error (.invalid ("invalid character " ++ quoteCodePoint b.toNat ++ " " ++ context))

/-- Whether a byte is a JSON blank. -/
def isBlank (b : UInt8) : Bool := b == 32 || b == 9 || b == 10 || b == 13

/-- Drop leading blanks. -/
def skipBlanks (bs : List UInt8) : List UInt8 := bs.dropWhile isBlank

/-- Whether a byte is a decimal digit. -/
def isDigit (b : UInt8) : Bool := 48 ≤ b && b ≤ 57

/-- The value of a hexadecimal digit. -/
def hexValue? (b : UInt8) : Option Nat :=
  if isDigit b then some (b.toNat - 48)
  else if 65 ≤ b && b ≤ 70 then some (b.toNat - 55)
  else if 97 ≤ b && b ≤ 102 then some (b.toNat - 87)
  else none

/-- The rest of a literal after its first byte: each expected byte in turn. -/
def literal (word : String) : List UInt8 → List UInt8 → Except Stop (List UInt8)
  | [], bs => .ok bs
  | _ :: _, [] => .error .ended
  | e :: more, b :: bs =>
    if b == e then literal word more bs
    else refuse b ("in literal " ++ word ++ " (expecting " ++ quoteCodePoint e.toNat ++ ")")

/-- Four hexadecimal digits of a `\u` escape, as a number. -/
def hex4 : List UInt8 → Except Stop (Nat × List UInt8)
  | a :: b :: c :: d :: rest =>
    match hexValue? a with
    | none => refuse a "in \\u hexadecimal character escape"
    | some va =>
      match hexValue? b with
      | none => refuse b "in \\u hexadecimal character escape"
      | some vb =>
        match hexValue? c with
        | none => refuse c "in \\u hexadecimal character escape"
        | some vc =>
          match hexValue? d with
          | none => refuse d "in \\u hexadecimal character escape"
          | some vd => .ok (((va * 16 + vb) * 16 + vc) * 16 + vd, rest)
  | bs =>
    match bs.find? fun b => (hexValue? b).isNone with
    | some b => refuse b "in \\u hexadecimal character escape"
    | none => .error .ended

/-- A piece of a string: raw bytes, or a code unit from an escape. -/
inductive Piece where
  | raw (b : UInt8)
  | unit (u : Nat)

/-- A replacement for a code unit that is half of a surrogate pair. -/
def unitChar (u : Nat) : Char := if 0xD800 ≤ u && u < 0xE000 then '�' else Char.ofNat u

/-- The characters of a string's pieces after the pending raw bytes `raw` (newest first):
raw bytes as UTF-8 (a byte that starts no valid encoding as U+FFFD), escaped units with
surrogate pairs joined and a lone half as U+FFFD. -/
def Piece.charsAfter (raw : List UInt8) : List Piece → List Char
  | [] => Utf8.decode raw.reverse
  | .raw b :: rest => Piece.charsAfter (b :: raw) rest
  | .unit hi :: .unit lo :: rest =>
    if 0xD800 ≤ hi && hi < 0xDC00 && 0xDC00 ≤ lo && lo < 0xE000 then
      Utf8.decode raw.reverse ++
        Char.ofNat (0x10000 + (hi - 0xD800) * 0x400 + (lo - 0xDC00)) :: Piece.charsAfter [] rest
    else Utf8.decode raw.reverse ++ unitChar hi :: Piece.charsAfter [] (.unit lo :: rest)
  | .unit u :: rest => Utf8.decode raw.reverse ++ unitChar u :: Piece.charsAfter [] rest

/-- The body of a string after its opening quote, up to and past its closing quote. -/
def stringBody : Nat → List Piece → List UInt8 → Except Stop (String × List UInt8)
  | 0, _, _ => .error .ended
  | _ + 1, _, [] => .error .ended
  | fuel + 1, acc, b :: bs =>
    if b == 34 then .ok (String.ofList (Piece.charsAfter [] acc.reverse), bs)
    else if b < 32 then refuse b "in string literal"
    else if b == 92 then
      match bs with
      | [] => .error .ended
      | e :: rest =>
        match e with
        | 34 => stringBody fuel (.unit 34 :: acc) rest
        | 92 => stringBody fuel (.unit 92 :: acc) rest
        | 47 => stringBody fuel (.unit 47 :: acc) rest
        | 98 => stringBody fuel (.unit 8 :: acc) rest
        | 102 => stringBody fuel (.unit 12 :: acc) rest
        | 110 => stringBody fuel (.unit 10 :: acc) rest
        | 114 => stringBody fuel (.unit 13 :: acc) rest
        | 116 => stringBody fuel (.unit 9 :: acc) rest
        | 117 =>
          match hex4 rest with
          | .ok (u, rest) => stringBody fuel (.unit u :: acc) rest
          | .error s => .error s
        | _ => refuse e "in string escape code"
    else stringBody fuel (.raw b :: acc) bs

/-- Digits at the head of the bytes. -/
def digits (bs : List UInt8) : List UInt8 × List UInt8 := (bs.takeWhile isDigit, bs.dropWhile isDigit)

/-- A number: an optional minus, an integer part without leading zeros, an optional fraction
and an optional exponent. It ends at the first byte that continues none of them. -/
def number (bs : List UInt8) : Except Stop (String × List UInt8) := do
  let (sign, rest) := match bs with
    | 45 :: rest => ([(45 : UInt8)], rest)
    | _ => ([], bs)
  let (whole, rest) ← match rest with
    | 48 :: more => pure ([(48 : UInt8)], more)
    | b :: _ =>
      if isDigit b then pure (digits rest) else refuse b "in numeric literal"
    | [] => throw .ended
  let (frac, rest) ← match rest with
    | 46 :: more =>
      match more with
      | b :: _ =>
        if isDigit b then
          let (ds, after) := digits more
          pure (46 :: ds, after)
        else refuse b "after decimal point in numeric literal"
      | [] => throw .ended
    | _ => pure ([], rest)
  let (expo, rest) ← match rest with
    | e :: more =>
      if e == 101 || e == 69 then
        let (signPart, more) := match more with
          | s :: after => if s == 43 || s == 45 then ([s], after) else ([], more)
          | [] => ([], more)
        match more with
        | b :: _ =>
          if isDigit b then
            let (ds, after) := digits more
            pure (e :: signPart ++ ds, after)
          else refuse b "in exponent of numeric literal"
        | [] => throw .ended
      else pure ([], rest)
    | [] => pure ([], rest)
  pure (Utf8.lossy (sign ++ whole ++ frac ++ expo), rest)

mutual

/-- One value at the head of the bytes, blanks first; `fuel` bounds the nesting and length. -/
def value : Nat → List UInt8 → Except Stop (Json × List UInt8)
  | 0, _ => .error .ended
  | fuel + 1, bs =>
    match skipBlanks bs with
    | [] => .error .ended
    | b :: rest =>
      if b == 123 then objectFirst fuel rest
      else if b == 91 then arrayFirst fuel rest
      else if b == 34 then do
        let (s, rest) ← stringBody (rest.length + 1) [] rest
        pure (.str s, rest)
      else if b == 45 || isDigit b then do
        let (n, rest) ← number (b :: rest)
        pure (.num n, rest)
      else if b == 116 then do pure (.bool true, ← literal "true" (Utf8.encode "rue") rest)
      else if b == 102 then do pure (.bool false, ← literal "false" (Utf8.encode "alse") rest)
      else if b == 110 then do pure (.null, ← literal "null" (Utf8.encode "ull") rest)
      else refuse b "looking for beginning of value"

/-- An array after its `[`: empty, or its first element. -/
def arrayFirst : Nat → List UInt8 → Except Stop (Json × List UInt8)
  | 0, _ => .error .ended
  | fuel + 1, bs =>
    match skipBlanks bs with
    | 93 :: rest => .ok (.arr [], rest)
    | [] => .error .ended
    | _ => do
      let (v, rest) ← value fuel bs
      arrayRest fuel [v] rest

/-- The rest of an array after an element: a comma and the next, or its `]`. -/
def arrayRest : Nat → List Json → List UInt8 → Except Stop (Json × List UInt8)
  | 0, _, _ => .error .ended
  | fuel + 1, acc, bs =>
    match skipBlanks bs with
    | 44 :: rest => do
      let (v, rest) ← value fuel rest
      arrayRest fuel (acc ++ [v]) rest
    | 93 :: rest => .ok (.arr acc, rest)
    | b :: _ => refuse b "after array element"
    | [] => .error .ended

/-- An object after its `{`: empty, or its first member. -/
def objectFirst : Nat → List UInt8 → Except Stop (Json × List UInt8)
  | 0, _ => .error .ended
  | fuel + 1, bs =>
    match skipBlanks bs with
    | 125 :: rest => .ok (.obj [], rest)
    | _ => member fuel [] bs

/-- A member of an object, blanks first: its key, a colon and its value, then the rest. -/
def member : Nat → List (String × Json) → List UInt8 → Except Stop (Json × List UInt8)
  | 0, _, _ => .error .ended
  | fuel + 1, acc, bs =>
    match skipBlanks bs with
    | 34 :: rest => do
      let (key, rest) ← stringBody (rest.length + 1) [] rest
      match skipBlanks rest with
      | 58 :: rest => do
        let (v, rest) ← value fuel rest
        match skipBlanks rest with
        | 44 :: rest => member fuel (acc ++ [(key, v)]) rest
        | 125 :: rest => pure (.obj (acc ++ [(key, v)]), rest)
        | b :: _ => refuse b "after object key:value pair"
        | [] => throw .ended
      | b :: _ => refuse b "after object key"
      | [] => throw .ended
    | b :: _ => refuse b "looking for beginning of object key string"
    | [] => .error .ended

end

end Decoder

/-- The first value of a stream, or the decoder's message: `EOF` for a stream of blanks,
`unexpected EOF` for one that ends inside a value, else the first byte that cannot stand
where it stands. What follows the value is not read. -/
def decodeFirst (text : String) : Except String Json :=
  let bs := Utf8.encode text
  if (Decoder.skipBlanks bs).isEmpty then .error "EOF"
  else
    match Decoder.value (2 * bs.length + 2) bs with
    | .ok (v, _) => .ok v
    | .error .ended => .error "unexpected EOF"
    | .error (.invalid m) => .error m

/-- A whole document, as bytes: one value and nothing after it but blanks, or the decoder's
message; a document that ends early gives `unexpected end of JSON input`. -/
def decodeDocument (bs : List UInt8) : Except String Json :=
  let stop : Decoder.Stop → String
    | .ended => "unexpected end of JSON input"
    | .invalid m => m
  match Decoder.value (2 * bs.length + 2) bs with
  | .ok (v, rest) =>
    match Decoder.skipBlanks rest with
    | [] => .ok v
    | b :: _ =>
      match (Decoder.refuse b "after top-level value" : Except Decoder.Stop Json) with
      | .ok v => .ok v
      | .error e => .error (stop e)
  | .error e => .error (stop e)

/-- Whether a text is exactly one JSON number, with nothing around it. -/
def isNumberText (t : String) : Bool :=
  match Decoder.number (Utf8.encode t) with
  | .ok (_, []) => true
  | _ => false

end Json

end TradeLedger
