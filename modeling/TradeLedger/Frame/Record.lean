import TradeLedger.Frame.Scan
/-!
# Reading records, lists and maps from frames

The frame reader fills typed records member by member, in the order the members appear. A member
whose name selects no field is skipped; a record whose field names differ only in case matches
names exactly, any other ignores ASCII case. A later member of the same name overwrites an
earlier one, `null` leaves a record or string as it was, and the first fault stops the read.
Number fields are flexible: their bytes, with every surrounding double quote removed, are read as
a numeral, and empty text or `null` means zero.

## Main definitions

* `Field`, `readRecord`: a record's fields, and filling them from an object.
* `flexFloat`, `flexInt`, `flexId`: the flexible fields.
-/

namespace TradeLedger

/-- How member names select the fields of a record. -/
inductive NameMatch where
  /-- names must equal a field name -/
  | exact
  /-- names are compared with ASCII letters folded to lower case -/
  | foldCase
  deriving Repr, DecidableEq

/-- A field of a record of type `α`: its name and how to read its value into the record. -/
structure Field (α : Type) where
  name : String
  read : α → List UInt8 → Except FrameFault (α × List UInt8)

namespace Frame

/-- ASCII lower case of a byte. -/
def foldByte (b : UInt8) : UInt8 := if 65 ≤ b && b ≤ 90 then b + 32 else b

/-- The field a member name selects. -/
def findField {α : Type} (m : NameMatch) (fields : List (Field α)) (key : List UInt8) :
    Option (Field α) :=
  match m with
  | .exact => fields.find? fun f => word f.name == key
  | .foldCase => fields.find? fun f => (word f.name).map foldByte == key.map foldByte

/-- A member name: a string; with exact matching `null` also reads, as a name no field has. -/
def readKey (m : NameMatch) (bs : List UInt8) : Except FrameFault (List UInt8 × List UInt8) :=
  match m with
  | .exact => do
    let (k, r) ← readString bs
    pure (k.getD [], r)
  | .foldCase =>
    match skipWs bs with
    | 34 :: rest => stringBody (rest.length + 1) [] rest
    | _ => .error .refused

/-- The members of a record after its opening brace, read into `acc`. -/
def members {α : Type} (m : NameMatch) (fields : List (Field α)) (depth : Nat) :
    Nat → α → List UInt8 → Except FrameFault (α × List UInt8)
  | 0, _, _ => .error .refused
  | fuel + 1, acc, bs => do
    let (key, r) ← readKey m bs
    match skipWs r with
    | 58 :: r =>
      let (acc, r) ← match findField m fields key with
        | some f => f.read acc r
        | none => do
          let r ← skipValue depth r
          pure (acc, r)
      match skipWs r with
      | 125 :: r => pure (acc, r)
      | 44 :: r => members m fields depth fuel acc r
      | _ => .error .refused
    | _ => .error .refused

/-- Read a record on top of `init`; `none` when the value is `null`. -/
def readRecord {α : Type} (m : NameMatch) (fields : List (Field α)) (depth : Nat) (init : α)
    (bs : List UInt8) : Except FrameFault (Option α × List UInt8) :=
  if maxDepth < depth + 1 then .error .refused
  else
    match skipWs bs with
    | 110 :: rest => do
      let r ← skipLiteral (word "ull") rest
      pure (none, r)
    | 123 :: rest =>
      match skipWs rest with
      | 125 :: r => .ok (some init, r)
      | _ => do
        let (a, r) ← members m fields (depth + 1) (rest.length + 1) init rest
        pure (some a, r)
    | _ => .error .refused

/-- The items of a list after its opening bracket. -/
def items {β : Type} (readItem : List UInt8 → Except FrameFault (β × List UInt8)) :
    Nat → List β → List UInt8 → Except FrameFault (List β × List UInt8)
  | 0, _, _ => .error .refused
  | fuel + 1, acc, bs => do
    let (x, r) ← readItem bs
    match skipWs r with
    | 93 :: r => pure ((x :: acc).reverse, r)
    | 44 :: r => items readItem fuel (x :: acc) r
    | _ => .error .refused

/-- Read a list; `none` when the value is `null`. -/
def readList {β : Type} (readItem : Nat → List UInt8 → Except FrameFault (β × List UInt8))
    (depth : Nat) (bs : List UInt8) : Except FrameFault (Option (List β) × List UInt8) :=
  if maxDepth < depth + 1 then .error .refused
  else
    match skipWs bs with
    | 110 :: rest => do
      let r ← skipLiteral (word "ull") rest
      pure (none, r)
    | 91 :: rest =>
      match skipWs rest with
      | 93 :: r => .ok (some [], r)
      | _ => do
        let (xs, r) ← items (readItem (depth + 1)) (rest.length + 1) [] rest
        pure (some xs, r)
    | _ => .error .refused

/-- Put a member into an association list, a later one replacing an earlier one. -/
def assign (key value : List UInt8) (m : List (List UInt8 × List UInt8)) :
    List (List UInt8 × List UInt8) :=
  if m.any (·.1 == key) then m.map fun (k, v) => if k == key then (k, value) else (k, v)
  else m ++ [(key, value)]

/-- The members of a map after its opening brace. -/
def mapMembers (depth : Nat) : Nat → List (List UInt8 × List UInt8) → List UInt8 →
    Except FrameFault (List (List UInt8 × List UInt8) × List UInt8)
  | 0, _, _ => .error .refused
  | fuel + 1, acc, bs => do
    let (k, r) ← readString bs
    match skipWs r with
    | 58 :: r => do
      let (v, r) ← readRaw depth r
      let acc := assign (k.getD []) v acc
      match skipWs r with
      | 125 :: r => pure (acc, r)
      | 44 :: r => mapMembers depth fuel acc r
      | _ => .error .refused
    | _ => .error .refused

/-- Read a map from names to the bytes of their values; `none` when the value is `null`. -/
def readMap (depth : Nat) (bs : List UInt8) :
    Except FrameFault (Option (List (List UInt8 × List UInt8)) × List UInt8) :=
  if maxDepth < depth + 1 then .error .refused
  else
    match skipWs bs with
    | 110 :: rest => do
      let r ← skipLiteral (word "ull") rest
      pure (none, r)
    | 123 :: rest =>
      match skipWs rest with
      | 125 :: r => .ok (some [], r)
      | _ => do
        let (m, r) ← mapMembers (depth + 1) (rest.length + 1) [] rest
        pure (some m, r)
    | _ => .error .refused

/-- Drop every leading and trailing double quote. -/
def trimQuotes (bs : List UInt8) : List UInt8 :=
  ((bs.dropWhile (· == 34)).reverse.dropWhile (· == 34)).reverse

/-- Whether number text means zero without being read: empty, or `null`. -/
def blankNumber (bs : List UInt8) : Bool := bs.isEmpty || bs == word "null"

/-- A flexible float field's value from its bytes. -/
def flexFloat (raw : List UInt8) : Except FrameFault Float :=
  let t := trimQuotes raw
  if blankNumber t then .ok 0
  else match readFloat t with
    | .ok v => .ok v
    | .error f => .error (.numeral f)

/-- A flexible integer field's value from its bytes. -/
def flexInt (raw : List UInt8) : Except FrameFault Int :=
  let t := trimQuotes raw
  if blankNumber t then .ok 0
  else match readInt64 t with
    | .ok v => .ok v
    | .error f => .error (.numeral f)

/-- An identifier field's text from its bytes: a string's text, empty for `null`, otherwise
the bytes as written. -/
def flexId (raw : List UInt8) : Except FrameFault String :=
  match raw with
  | 34 :: _ => do
    let s ← readWhole readString raw
    pure (Utf8.lossy (s.getD []))
  | _ => if raw == word "null" then .ok "" else .ok (Utf8.lossy raw)

/-- A string field: `null` keeps the old value. -/
def stringField {α : Type} (name : String) (set : α → String → α) : Field α :=
  ⟨name, fun a bs => do
    let (s, r) ← readString bs
    pure (match s with
      | some s => set a (Utf8.lossy s)
      | none => a, r)⟩

def floatField {α : Type} (name : String) (depth : Nat) (set : α → Float → α) : Field α :=
  ⟨name, fun a bs => do
    let (raw, r) ← readRaw depth bs
    let v ← flexFloat raw
    pure (set a v, r)⟩

/-- A flexible integer field. -/
def intField {α : Type} (name : String) (depth : Nat) (set : α → Int → α) : Field α :=
  ⟨name, fun a bs => do
    let (raw, r) ← readRaw depth bs
    let v ← flexInt raw
    pure (set a v, r)⟩

def idField {α : Type} (name : String) (depth : Nat) (set : α → String → α) : Field α :=
  ⟨name, fun a bs => do
    let (raw, r) ← readRaw depth bs
    let v ← flexId raw
    pure (set a v, r)⟩

/-- A field whose bytes are kept as written. -/
def rawField {α : Type} (name : String) (depth : Nat) (set : α → List UInt8 → α) : Field α :=
  ⟨name, fun a bs => do
    let (raw, r) ← readRaw depth bs
    pure (set a raw, r)⟩

end Frame

end TradeLedger
