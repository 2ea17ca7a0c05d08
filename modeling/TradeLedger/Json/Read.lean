import TradeLedger.Json.Value
/-!
# Reading JSON text

A strict reader for request lines: the grammar of RFC 8259, numbers kept as their text, `\u`
escapes joined into surrogate pairs where they form one. Every step consumes input, so a fuel
from the text's length bounds the recursion.

## Main definitions

* `parse`: the value of a line.
-/

namespace TradeLedger

namespace Json

namespace Reader

/-- JSON blanks: space, tab, line feed and carriage return. -/
def isWs (c : Char) : Bool := c == ' ' || c == '\t' || c == '\n' || c == '\r'

/-- Drop leading JSON blanks. -/
def skipWs (cs : List Char) : List Char := cs.dropWhile isWs

def hexValue (c : Char) : Option Nat :=
  if '0' ≤ c ∧ c ≤ '9' then some (c.toNat - 48)
  else if 'a' ≤ c ∧ c ≤ 'f' then some (c.toNat - 87)
  else if 'A' ≤ c ∧ c ≤ 'F' then some (c.toNat - 55)
  else none

/-- Four hex digits at the head of a text. -/
def hex4 : List Char → Option (Nat × List Char)
  | a :: b :: c :: d :: rest =>
    match hexValue a, hexValue b, hexValue c, hexValue d with
    | some a, some b, some c, some d => some (((a * 16 + b) * 16 + c) * 16 + d, rest)
    | _, _, _, _ => none
  | _ => none

/-- The characters of a string body up to its closing quote, and the rest after it. The fuel
bounds the characters read. -/
def stringBody : Nat → List Char → List Char → Except String (String × List Char)
  | 0, _, _ => .error "unterminated string"
  | _, _, [] => .error "unterminated string"
  | _, acc, '"' :: rest => .ok (String.ofList acc.reverse, rest)
  | fuel + 1, acc, '\\' :: c :: rest =>
    match c with
    | '"' => stringBody fuel ('"' :: acc) rest
    | '\\' => stringBody fuel ('\\' :: acc) rest
    | '/' => stringBody fuel ('/' :: acc) rest
    | 'b' => stringBody fuel ('\x08' :: acc) rest
    | 'f' => stringBody fuel ('\x0c' :: acc) rest
    | 'n' => stringBody fuel ('\n' :: acc) rest
    | 'r' => stringBody fuel ('\r' :: acc) rest
    | 't' => stringBody fuel ('\t' :: acc) rest
    | 'u' =>
      match hex4 rest with
      | none => .error "bad unicode escape"
      | some (hi, rest1) =>
        if 0xD800 ≤ hi ∧ hi < 0xDC00 then
          match rest1 with
          | '\\' :: 'u' :: rest2 =>
            match hex4 rest2 with
            | some (lo, rest3) =>
              if 0xDC00 ≤ lo ∧ lo < 0xE000 then
                let joined := 0x10000 + (hi - 0xD800) * 1024 + (lo - 0xDC00)
                stringBody fuel (Char.ofNat joined :: acc) rest3
              else stringBody fuel ('�' :: acc) rest1
            | none => stringBody fuel ('�' :: acc) rest1
          | _ => stringBody fuel ('�' :: acc) rest1
        else if 0xDC00 ≤ hi ∧ hi < 0xE000 then stringBody fuel ('�' :: acc) rest1
        else stringBody fuel (Char.ofNat hi :: acc) rest1
    | _ => .error "bad escape"
  | fuel + 1, acc, c :: rest => stringBody fuel (c :: acc) rest

/-- Digits at the head of a text. -/
def digits (cs : List Char) : List Char × List Char := (cs.takeWhile Char.isDigit, cs.dropWhile Char.isDigit)

/-- A number at the head of a text, as its text. -/
def number (cs : List Char) : Except String (String × List Char) :=
  let (sign, cs) := match cs with
    | '-' :: rest => (['-'], rest)
    | _ => ([], cs)
  let (intPart, cs) := digits cs
  if intPart.isEmpty || (intPart.length > 1 && intPart.head? == some '0') then
    .error "bad number"
  else
    let (fracPart, cs, okFrac) := match cs with
      | '.' :: rest =>
        let (f, r) := digits rest
        ('.' :: f, r, !f.isEmpty)
      | _ => ([], cs, true)
    let (expPart, cs, okExp) := match cs with
      | e :: rest =>
        if e == 'e' || e == 'E' then
          let (s, r) := match rest with
            | '+' :: r => (['+'], r)
            | '-' :: r => (['-'], r)
            | _ => ([], rest)
          let (d, r) := digits r
          (e :: s ++ d, r, !d.isEmpty)
        else ([], cs, true)
      | [] => ([], cs, true)
    if okFrac && okExp then .ok (String.ofList (sign ++ intPart ++ fracPart ++ expPart), cs)
    else .error "bad number"

mutual
/-- One value at the head of a text, after blanks. -/
def value : Nat → List Char → Except String (Json × List Char)
  | 0, _ => .error "input too deep"
  | fuel + 1, cs =>
    match skipWs cs with
    | 'n' :: 'u' :: 'l' :: 'l' :: rest => .ok (.null, rest)
    | 't' :: 'r' :: 'u' :: 'e' :: rest => .ok (.bool true, rest)
    | 'f' :: 'a' :: 'l' :: 's' :: 'e' :: rest => .ok (.bool false, rest)
    | '"' :: rest => do
      let (s, r) ← stringBody (rest.length + 1) [] rest
      pure (.str s, r)
    | '[' :: rest =>
      match skipWs rest with
      | ']' :: r => .ok (.arr [], r)
      | _ => items fuel [] rest
    | '{' :: rest =>
      match skipWs rest with
      | '}' :: r => .ok (.obj [], r)
      | _ => members fuel [] rest
    | c :: rest =>
      if c == '-' || c.isDigit then do
        let (t, r) ← number (c :: rest)
        pure (.num t, r)
      else .error "unexpected character"
    | [] => .error "unexpected end of input"

/-- The items of an array after its opening bracket (or a comma). -/
def items : Nat → List Json → List Char → Except String (Json × List Char)
  | 0, _, _ => .error "input too deep"
  | fuel + 1, acc, cs => do
    let (v, r) ← value fuel cs
    match skipWs r with
    | ',' :: r => items fuel (v :: acc) r
    | ']' :: r => pure (.arr (v :: acc).reverse, r)
    | _ => .error "expected , or ]"

/-- The members of an object after its opening brace (or a comma). -/
def members : Nat → List (String × Json) → List Char → Except String (Json × List Char)
  | 0, _, _ => .error "input too deep"
  | fuel + 1, acc, cs =>
    match skipWs cs with
    | '"' :: rest => do
      let (k, r) ← stringBody (rest.length + 1) [] rest
      match skipWs r with
      | ':' :: r => do
        let (v, r) ← value fuel r
        match skipWs r with
        | ',' :: r => members fuel ((k, v) :: acc) r
        | '}' :: r => pure (.obj ((k, v) :: acc).reverse, r)
        | _ => .error "expected , or \x7d"
      | _ => .error "expected :"
    | _ => .error "expected a member name"
end

end Reader

/-- Read one JSON value filling the whole text. -/
def parse (s : String) : Except String Json := do
  let cs := s.toList
  let (v, rest) ← Reader.value (2 * cs.length + 2) cs
  if (Reader.skipWs rest).isEmpty then pure v else .error "trailing characters"

end Json

end TradeLedger
