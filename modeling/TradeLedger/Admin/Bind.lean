import TradeLedger.Json.Value
/-!
# Binding request bodies

A request body names a structure of fields, each under a JSON key. Binding reads the first JSON
value of the body into the fields as the service's decoder does: the body is an object (any
other value but `null` is a type error naming the structure); a member sets the field of its
key, else of its key up to case, a later member winning; a `null` member changes nothing, and a
member of the wrong kind is a type error naming the field. The rules are then checked field by
field, each reporting its first failure.

## Main definitions

* `BodyField`, `FieldRule`: a field with its key, kind and rules.
* `bindObject`: reading an object into the fields.
* `validate`: the rules' report, joined by line breaks.
-/

namespace TradeLedger

inductive FieldKind where
  | text
  | flag
  deriving Repr, DecidableEq, Inhabited

namespace FieldKind

/-- The type name of a kind in messages. -/
def typeName : FieldKind → String
  | .text => "string"
  | .flag => "bool"

/-- Whether a JSON value is of a kind. -/
def accepts : FieldKind → Json → Bool
  | .text, .str _ => true
  | .flag, .bool _ => true
  | _, _ => false

end FieldKind

inductive FieldRule where
  /-- the value is not the zero value -/
  | required
  /-- the value is one of some texts -/
  | oneOf (choices : List String)
  deriving Repr, Inhabited

namespace FieldRule

/-- The tag a rule is reported under. -/
def tag : FieldRule → String
  | .required => "required"
  | .oneOf _ => "oneof"

/-- Whether a value keeps a rule; a field that was not set holds its zero value. -/
def holds : FieldRule → Option Json → Bool
  | .required, some (.str s) => !s.isEmpty
  | .required, some (.bool b) => b
  | .required, _ => false
  | .oneOf choices, some (.str s) => choices.contains s
  | .oneOf choices, none => choices.contains ""
  | .oneOf _, _ => false

end FieldRule

/-- A field of a request structure: its name, its JSON key, its kind and its rules. -/
structure BodyField where
  name : String
  key : String
  kind : FieldKind
  rules : List FieldRule := []
  deriving Repr, Inhabited

/-- A key folded for matching up to case: ASCII letters in upper case, `ſ` as `S` and the
Kelvin sign as `K`. -/
def foldMemberKey (k : String) : String :=
  k.map fun c =>
    if 'a' ≤ c && c ≤ 'z' then Char.ofNat (c.toNat - 32)
    else if c.toNat == 0x17F then 'S'
    else if c.toNat == 0x212A then 'K'
    else c

/-- The name of a JSON value's kind in a type error. -/
def kindName : Json → String
  | .null => "null"
  | .bool _ => "bool"
  | .num _ => "number"
  | .str _ => "string"
  | .arr _ => "array"
  | .obj _ => "object"

/-- The field a member key sets: the one with that key, else the first with that key up to
case. -/
def fieldFor? (fields : List BodyField) (key : String) : Option BodyField :=
  match fields.find? (·.key == key) with
  | some f => some f
  | none => fields.find? fun f => foldMemberKey f.key == foldMemberKey key

/-- The value a bound field holds, if it was set. -/
def boundValue? (bound : List (String × Json)) (key : String) : Option Json :=
  (bound.find? (·.1 == key)).map (·.2)

/-- The fields a JSON value sets in a structure, by key, or the first type error. -/
def bindObject (structName typeName : String) (fields : List BodyField) (j : Json) :
    Except String (List (String × Json)) :=
  match j with
  | .null => .ok []
  | .obj members =>
    let step (acc : List (String × Json) × Option String) (m : String × Json) :=
      let (bound, err) := acc
      match fieldFor? fields m.1 with
      | none => acc
      | some f =>
        match m.2 with
        | .null => acc
        | v =>
          if f.kind.accepts v then ((f.key, v) :: bound.filter (·.1 != f.key), err)
          else
            let msg := "json: cannot unmarshal " ++ kindName v ++ " into Go struct field " ++
              structName ++ "." ++ f.key ++ " of type " ++ f.kind.typeName
            (bound, err.orElse fun _ => some msg)
    match members.foldl step ([], none) with
    | (_, some msg) => .error msg
    | (bound, none) => .ok bound
  | v => .error ("json: cannot unmarshal " ++ kindName v ++ " into Go value of type " ++ typeName)

/-- The report of a field's first failing rule. -/
def ruleReport (structName : String) (f : BodyField) (r : FieldRule) : String :=
  "Key: '" ++ structName ++ "." ++ f.name ++ "' Error:Field validation for '" ++ f.name ++
    "' failed on the '" ++ r.tag ++ "' tag"

/-- The reports of the fields whose rules fail, joined by line breaks, if any fails. -/
def validate (structName : String) (fields : List BodyField) (bound : List (String × Json)) :
    Option String :=
  let reports := fields.filterMap fun f =>
    (f.rules.find? fun r => !r.holds (boundValue? bound f.key)).map (ruleReport structName f)
  if reports.isEmpty then none else some ("\n".intercalate reports)

end TradeLedger
