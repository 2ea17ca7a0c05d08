import TradeLedger.Yaml.Compose
import TradeLedger.Text.Quote
/-!
# Decoding YAML documents into records

A record type is its name and fields, each a key with a way of taking a node. A mapping sets
the fields its keys name, in order, ignoring other keys; a null changes nothing; a value of the
wrong kind is refused, and decoding goes on so that every refusal is reported with its line and
type. A key given twice sets nothing. A reference decodes as its anchored node. The merge key
`<<` sets the fields the mapping does not name, the earliest merged mapping winning.

## Main definitions

* `YamlRecord`: a record type and its fields.
* `YamlDocument.decodeWith`: a record read from a document, or every refusal.
-/

namespace TradeLedger

/-- The state of decoding a document: the document, the refusals so far, the keys already set
while merging, and the references being decoded. -/
structure Decoding where
  doc : YamlDocument
  refusals : Array String := #[]
  merged : Option (List String) := none
  active : List Nat := []

/-- A step of decoding; an error here stops decoding at once. -/
abbrev Decode := StateT Decoding (Except YamlProblem)

/-- How a value of type `σ` takes a node. -/
abbrev Decoder (σ : Type) := Yaml → σ → Decode σ

/-- A record type: its name and its fields by key. -/
structure YamlRecord (σ : Type) where
  typeName : String
  fields : List (String × Decoder σ)

namespace Decoding

/-- Note that a node does not fit a type. -/
def refuse (n : Yaml) (target : String) : Decode Unit :=
  let message := "line " ++ toString n.line ++ ": cannot unmarshal " ++ n.shown ++ " into " ++ target
  modify fun d => { d with refusals := d.refusals.push message }

/-- Decode a node, through its anchored node when it is a reference. -/
def through {α : Type} (n : Yaml) (k : Yaml → Decode α) : Decode α := do
  match n with
  | .reference name serial target _ =>
    let d ← get
    if d.active.contains serial then
      throw (YamlProblem.refused ("anchor '" ++ name ++ "' value contains itself"))
    set { d with active := serial :: d.active }
    let r ← k (d.doc.anchored.getD target (.scalar "" "!!null" 0))
    modify fun d => { d with active := d.active.erase serial }
    pure r
  | n => k n

/-- The refusals of a mapping's repeated keys: each later key against each earlier one. -/
def repeatedKeys : List Yaml → List String
  | [] => []
  | k :: rest =>
    (rest.filter (·.identity == k.identity)).map (fun later =>
      "line " ++ toString later.line ++ ": mapping key " ++ quoteText k.identity.2 ++
        " already defined at line " ++ toString k.line) ++ repeatedKeys rest

/-- Whether a mapping's keys are all different; if not, note the refusals. -/
def distinctKeys (entries : List (Yaml × Yaml)) : Decode Bool := do
  match repeatedKeys (entries.map (·.1)) with
  | [] => pure true
  | repeated =>
    modify fun d => { d with refusals := d.refusals ++ repeated.toArray }
    pure false

def scalarValue (tag text : String) : Decode YamlScalar :=
  match YamlScalar.resolve tag text with
  | .ok (_, v) => pure v
  | .error e => throw e

/-- The name a mapping key gives a field: a scalar's text (a binary one decoded), none for a
null; a collection does not fit a name and is refused. -/
def keyName (k : Yaml) : Decode (Option String) := through k fun k => do
  match k with
  | .scalar text tag _ =>
    match ← scalarValue tag text with
    | .null => pure none
    | .text s => pure (some (if tag == "!!binary" then s else text))
    | _ => pure (some text)
  | .mapping entries _ _ =>
    if ← distinctKeys entries then refuse k "string"
    pure none
  | _ =>
    refuse k "string"
    pure none

/-- The name a mapping key counts as already set under a merge: the text of a key that reads
as a string. -/
def mergedName (k : Yaml) : Decode (Option String) := through k fun k => do
  match k with
  | .scalar text tag _ =>
    match ← scalarValue tag text with
    | .text s => pure (some s)
    | _ => pure none
  | _ => pure none

/-- Whether a key is the merge key `<<`. -/
def isMerge : Yaml → Bool
  | .scalar "<<" "!!merge" _ => true
  | _ => false

/-- The refusal of a merge value that is not a mapping or a sequence of mappings. -/
def wantMap {α : Type} : Decode α :=
  throw (YamlProblem.refused "map merge requires map or sequence of maps as the value")

/-- Whether a node is a mapping, or a reference to one. -/
def isMappingLike (n : Yaml) : Decode Bool := do
  match n with
  | .mapping .. => pure true
  | .reference _ _ target _ =>
    match (← get).doc.anchored.getD target (.scalar "" "!!null" 0) with
    | .mapping .. => pure true
    | _ => pure false
  | _ => pure false

end Decoding

namespace Decoder

open Decoding

/-- A field of a plain type named `target`: a scalar is taken by `take`, which gives the change
or none when the value does not fit; a null leaves the field; anything else is refused. -/
def leaf {σ : Type} (target : String) (take : YamlScalar → Option (σ → σ)) : Decoder σ :=
  fun n s => through n fun n => do
    match n with
    | .scalar text tag _ =>
      let v ← scalarValue tag text
      match v with
      | .null => pure s
      | v =>
        match take v with
        | some f => pure (f s)
        | none =>
          refuse n target
          pure s
    | .mapping entries _ _ =>
      if ← distinctKeys entries then refuse n target
      pure s
    | _ =>
      refuse n target
      pure s

end Decoder

namespace YamlRecord

open Decoding

/-- Decode a node into a record, `fuel` bounding the depth of merges. -/
def decodeWithin {σ : Type} (r : YamlRecord σ) : Nat → Decoder σ
  | 0 => fun _ s => pure s
  | fuel + 1 => fun n s => through n fun n => do
    match n with
    | .mapping entries _ _ =>
      if !(← distinctKeys entries) then return s
      let inherited := (← get).merged
      modify fun d => { d with merged := none }
      let mut s := s
      let mut mergeValue : Option Yaml := none
      let mut tracked := inherited
      for (k, v) in entries do
        if isMerge k then
          mergeValue := some v
        else
          match ← keyName k with
          | none => pure ()
          | some name =>
            let seen := match tracked with
              | some names => names.contains name
              | none => false
            if !seen then
              tracked := tracked.map (name :: ·)
              match r.fields.lookup name with
              | some field => s ← field v s
              | none => pure ()
      modify fun d => { d with merged := tracked }
      match mergeValue with
      | none => pure s
      | some m =>
        let saved := tracked
        if saved.isNone then
          let names ← entries.filterMapM fun (k, _) => mergedName k
          modify fun d => { d with merged := some names }
        s ← match m with
          | .mapping .. => decodeWithin r fuel m s
          | .reference .. => do
            if !(← isMappingLike m) then wantMap
            decodeWithin r fuel m s
          | .sequence items _ _ =>
            items.foldlM (fun s item => do
              if !(← isMappingLike item) then wantMap
              decodeWithin r fuel item s) s
          | _ => wantMap
        if saved.isNone then modify fun d => { d with merged := none }
        pure s
    | .scalar text tag _ =>
      match ← scalarValue tag text with
      | .null => pure s
      | _ =>
        refuse n r.typeName
        pure s
    | _ =>
      refuse n r.typeName
      pure s

/-- Decode a node into a record. -/
def decode {σ : Type} (r : YamlRecord σ) : Decoder σ := fun n s => do
  decodeWithin r (← get).doc.bound n s

/-- A field that is itself a record, reached by `get` and replaced by `set`. -/
def nested {σ τ : Type} (r : YamlRecord τ) (get : σ → τ) (set : σ → τ → σ) : Decoder σ :=
  fun n s => do pure (set s (← r.decode n (get s)))

end YamlRecord

namespace YamlDocument

/-- Decode a document into a record over `init`: the record, or every refusal met. -/
def decodeWith {σ : Type} (doc : YamlDocument) (r : YamlRecord σ) (init : σ) :
    Except YamlProblem σ := do
  let (s, d) ← (r.decode doc.root init).run { doc }
  if d.refusals.isEmpty then pure s else throw (.misfit d.refusals.toList)

end YamlDocument

end TradeLedger
