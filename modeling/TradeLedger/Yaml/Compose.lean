import TradeLedger.Yaml.Scan
import TradeLedger.Yaml.Scalar
import TradeLedger.Yaml.Node
/-!
# Reading a YAML document

Tokens are assembled into the nodes of a stream's first document: a node is a reference, or
an optional anchor and tag followed by a scalar, a collection, or nothing. Tag handles expand
by `%TAG` (or the defaults `!` and `!!`). An untagged scalar is `!!str` when quoted or a block,
`!!merge` as a plain `<<`, else what its text looks like; collections are `!!seq` and `!!map`.
Reading stops past the first document's `...`; a stream with no document has no root.

## Main definitions

* `Composer.document`: assembling the first document.
* `YamlDocument.read`: the first document of a text.
-/

namespace TradeLedger

/-- The state of reading a document: the scanner, the tag handles in force, the anchors met
(the latest first) with the place of their nodes in the table, and how many references were
read. -/
structure Composer where
  scan : Scanner
  handles : List (String × String) := []
  anchors : List (String × Nat) := []
  anchored : Array Yaml := #[]
  references : Nat := 0
  deriving Inhabited

/-- A step of reading a document. -/
abbrev Compose := StateT Composer (Except YamlProblem)

namespace Composer

/-- Run a scanner step. -/
def lift {α : Type} (m : Scan α) : Compose α := do
  let c ← get
  match m.run c.scan with
  | .ok (a, s) =>
    set { c with scan := s }
    pure a
  | .error e => throw e

/-- The next token. -/
def peek : Compose Token := lift Scanner.peekToken

/-- Move past the next token. -/
def next : Compose Unit := lift Scanner.skipToken

/-- More steps than any loop over the tokens can take. -/
def steps : Compose Nat := do return 4 * (← get).scan.text.size + 16

/-- Refuse the document with a problem found at `found` while reading what started at
`context`. -/
def failAt {α : Type} (context found : Mark) (message : String) : Compose α :=
  throw (YamlProblem.assembling context.line found.line message)

/-- An empty scalar at a place. -/
def emptyAt (m : Mark) : Yaml := .scalar "" "!!null" (m.line + 1)

/-- The tag of a scalar: its explicit tag in short form (the non-specific `!` counting as
none), else `!!str` when it is not plain, `!!merge` for a plain `<<`, or the tag its text looks
like. -/
def scalarTag (text : String) (style : ScalarStyle) (tag : String) : String :=
  if tag != "" && tag != "!" then YamlScalar.shortTag tag
  else if style != .plain then "!!str"
  else if text == "<<" then "!!merge"
  else YamlScalar.plainTag text

/-- The tag of a collection: its explicit tag in short form, else the default. -/
def collectionTag (tag default : String) : String :=
  if tag != "" && tag != "!" then YamlScalar.shortTag tag else default

/-- The full tag a tag token names: a verbatim tag as it is, else its handle expanded. -/
def tagOf (start : Mark) : Option (String × String × Mark) → Compose String
  | none => pure ""
  | some (handle, suffix, m) => do
    if handle.isEmpty then return suffix
    match (← get).handles.lookup handle with
    | some uri => pure (uri ++ suffix)
    | none => failAt start m "found undefined tag handle"

/-- Set aside the place of an anchored node before its content is read, so that references
inside it find it. -/
def reserve (anchor : Option String) : Compose (Option Nat) := do
  match anchor with
  | none => pure none
  | some name =>
    let c ← get
    set { c with
      anchored := c.anchored.push (emptyAt {})
      anchors := (name, c.anchored.size) :: c.anchors }
    pure (some c.anchored.size)

/-- Put a finished node in its anchor's place. -/
def settle (slot : Option Nat) (n : Yaml) : Compose Yaml := do
  if let some i := slot then modify fun c => { c with anchored := c.anchored.modify i fun _ => n }
  pure n

/-- A reference to the latest node anchored with a name. -/
def reference (name : String) (start : Mark) : Compose Yaml := do
  let c ← get
  match c.anchors.lookup name with
  | none => throw (YamlProblem.refused ("unknown anchor '" ++ name ++ "' referenced"))
  | some i =>
    set { c with references := c.references + 1 }
    pure (.reference name c.references i (start.line + 1))

/-- Whether a token ends a block entry, key or value, leaving it empty. -/
def endsBlockPart (k : TokenKind) : Bool :=
  k == .key || k == .value || k == .blockEnd

/-- The items of a block sequence, from its start token to its end. -/
def blockSequence (child : Bool → Bool → Compose Yaml) : Compose (List Yaml) := do
  let first ← peek
  next
  let mut items : Array Yaml := #[]
  for _ in [0:(← steps)] do
    let t ← peek
    match t.kind with
    | .blockEntry =>
      next
      let u ← peek
      if u.kind == .blockEntry || u.kind == .blockEnd then items := items.push (emptyAt t.stop)
      else
        let item ← child true false
        items := items.push item
    | .blockEnd =>
      next
      break
    | _ => failAt first.start t.start "did not find expected '-' indicator"
  return items.toList

/-- The items of a sequence written at its key's indentation: entries as long as they come. -/
def indentlessSequence (child : Bool → Bool → Compose Yaml) : Compose (List Yaml) := do
  let mut items : Array Yaml := #[]
  for _ in [0:(← steps)] do
    let t ← peek
    if t.kind != .blockEntry then break
    next
    let u ← peek
    if u.kind == .blockEntry || endsBlockPart u.kind then items := items.push (emptyAt t.stop)
    else
      let item ← child true false
      items := items.push item
  return items.toList

/-- The value of a block mapping's entry, empty when no value follows. -/
def blockValue (child : Bool → Bool → Compose Yaml) : Compose Yaml := do
  let t ← peek
  if t.kind == .value then
    next
    let u ← peek
    if endsBlockPart u.kind then pure (emptyAt t.stop) else child true true
  else pure (emptyAt t.start)

/-- The entries of a block mapping, from its start token to its end. -/
def blockMapping (child : Bool → Bool → Compose Yaml) : Compose (List (Yaml × Yaml)) := do
  let first ← peek
  next
  let mut entries : Array (Yaml × Yaml) := #[]
  for _ in [0:(← steps)] do
    let t ← peek
    match t.kind with
    | .key =>
      next
      let u ← peek
      let k ← if endsBlockPart u.kind then pure (emptyAt t.stop) else child true true
      let v ← blockValue child
      entries := entries.push (k, v)
    | .blockEnd =>
      next
      break
    | _ => failAt first.start t.start "did not find expected key"
  return entries.toList

/-- A single-pair mapping inside a flow sequence, after its `?` or implicit key token. -/
def flowPair (child : Bool → Bool → Compose Yaml) (start : Mark) : Compose Yaml := do
  let t ← peek
  let k ← if t.kind == .value || t.kind == .flowEntry || t.kind == .flowSequenceEnd then
      pure (emptyAt t.stop)
    else child false false
  let t ← peek
  let v ← if t.kind == .value then do
      next
      let u ← peek
      if u.kind == .flowEntry || u.kind == .flowSequenceEnd then pure (emptyAt t.start)
      else child false false
    else pure (emptyAt t.start)
  pure (.mapping [(k, v)] "!!map" (start.line + 1))

/-- The items of a flow sequence, from `[` to `]`. -/
def flowSequence (child : Bool → Bool → Compose Yaml) : Compose (List Yaml) := do
  let first ← peek
  next
  let mut items : Array Yaml := #[]
  let mut isFirst := true
  for _ in [0:(← steps)] do
    let mut t ← peek
    if t.kind == .flowSequenceEnd then
      next
      break
    if !isFirst then
      if t.kind == .flowEntry then
        next
        t ← peek
      else failAt first.start t.start "did not find expected ',' or ']'"
    isFirst := false
    if t.kind == .key then
      next
      let pair ← flowPair child t.start
      items := items.push pair
    else if t.kind != .flowSequenceEnd then
      let item ← child false false
      items := items.push item
  return items.toList

/-- The entries of a flow mapping, from the opening brace to the closing one. An entry without
`:` has an empty value. -/
def flowMapping (child : Bool → Bool → Compose Yaml) : Compose (List (Yaml × Yaml)) := do
  let first ← peek
  next
  let mut entries : Array (Yaml × Yaml) := #[]
  let mut isFirst := true
  for _ in [0:(← steps)] do
    let mut t ← peek
    if t.kind == .flowMappingEnd then
      next
      break
    if !isFirst then
      if t.kind == .flowEntry then
        next
        t ← peek
      else failAt first.start t.start "did not find expected ',' or '\x7d'"
    isFirst := false
    if t.kind == .key then
      next
      let u ← peek
      let k ← if u.kind == .value || u.kind == .flowEntry || u.kind == .flowMappingEnd then
          pure (emptyAt u.start)
        else child false false
      let w ← peek
      let v ← if w.kind == .value then do
          next
          let x ← peek
          if x.kind == .flowEntry || x.kind == .flowMappingEnd then pure (emptyAt x.start)
          else child false false
        else pure (emptyAt w.start)
      entries := entries.push (k, v)
    else if t.kind != .flowMappingEnd then
      let k ← child false false
      let w ← peek
      entries := entries.push (k, emptyAt w.start)
  return entries.toList

/-- Read a node, `fuel` bounding its depth. In block context it may be a block collection; as
a mapping's key or value it may be a sequence at the key's indentation. -/
def node : Nat → Bool → Bool → Compose Yaml
  | 0, _, _ => throw (YamlProblem.refused "exceeded max depth of 10000")
  | fuel + 1, block, indentless => do
    let first ← peek
    if let .reference name := first.kind then
      next
      return ← reference name first.start
    let start := first.start
    let mut t := first
    let mut anchor : Option String := none
    let mut tagToken : Option (String × String × Mark) := none
    if let .anchor name := t.kind then
      anchor := some name
      next
      t ← peek
      if let .tag h s := t.kind then
        tagToken := some (h, s, t.start)
        next
        t ← peek
    else if let .tag h s := t.kind then
      tagToken := some (h, s, t.start)
      next
      t ← peek
      if let .anchor name := t.kind then
        anchor := some name
        next
        t ← peek
    let tag ← tagOf start tagToken
    let line := start.line + 1
    let child := node fuel
    if indentless && t.kind == .blockEntry then
      let slot ← reserve anchor
      let items ← indentlessSequence child
      return ← settle slot (.sequence items (collectionTag tag "!!seq") line)
    match t.kind with
    | .scalar text style =>
      next
      let slot ← reserve anchor
      settle slot (.scalar text (scalarTag text style tag) line)
    | .flowSequenceStart =>
      let slot ← reserve anchor
      let items ← flowSequence child
      settle slot (.sequence items (collectionTag tag "!!seq") line)
    | .flowMappingStart =>
      let slot ← reserve anchor
      let entries ← flowMapping child
      settle slot (.mapping entries (collectionTag tag "!!map") line)
    | .blockSequenceStart =>
      if block then
        let slot ← reserve anchor
        let items ← blockSequence child
        settle slot (.sequence items (collectionTag tag "!!seq") line)
      else if anchor.isSome || !tag.isEmpty then
        let slot ← reserve anchor
        settle slot (.scalar "" (scalarTag "" .plain tag) line)
      else failAt start t.start "did not find expected node content"
    | .blockMappingStart =>
      if block then
        let slot ← reserve anchor
        let entries ← blockMapping child
        settle slot (.mapping entries (collectionTag tag "!!map") line)
      else if anchor.isSome || !tag.isEmpty then
        let slot ← reserve anchor
        settle slot (.scalar "" (scalarTag "" .plain tag) line)
      else failAt start t.start "did not find expected node content"
    | _ =>
      if anchor.isSome || !tag.isEmpty then
        let slot ← reserve anchor
        settle slot (.scalar "" (scalarTag "" .plain tag) line)
      else failAt start t.start "did not find expected node content"

/-- Read the directives before a document: at most one `%YAML 1.1`, and `%TAG` handles named
once each; the default handles follow. -/
def directives : Compose Unit := do
  let mut version := false
  for _ in [0:(← steps)] do
    let t ← peek
    match t.kind with
    | .versionDirective major minor =>
      if version then failAt {} t.start "found duplicate %YAML directive"
      if major != 1 || minor != 1 then failAt {} t.start "found incompatible YAML document"
      version := true
      next
    | .tagDirective handle uri =>
      if (← get).handles.any (·.1 == handle) then failAt {} t.start "found duplicate %TAG directive"
      modify fun c => { c with handles := c.handles ++ [(handle, uri)] }
      next
    | _ => break
  for (h, uri) in [("!", "!"), ("!!", YamlScalar.schemaPrefix)] do
    if !(← get).handles.any (·.1 == h) then
      modify fun c => { c with handles := c.handles ++ [(h, uri)] }

/-- Whether a token may not start a document's content, which is then empty. -/
def endsDocument (k : TokenKind) : Bool :=
  match k with
  | .versionDirective .. | .tagDirective .. | .documentStart | .documentEnd | .streamEnd => true
  | _ => false

/-- Read the first document of the stream, if there is one. -/
def document : Compose (Option Yaml) := do
  let fuel ← steps
  let t ← peek
  if t.kind != .streamStart then failAt {} t.start "did not find expected <stream-start>"
  next
  let t ← peek
  if t.kind == .streamEnd then return none
  let explicit := match t.kind with
    | .versionDirective .. | .tagDirective .. | .documentStart => true
    | _ => false
  directives
  let root ← if explicit then do
      let t ← peek
      if t.kind != .documentStart then failAt {} t.start "did not find expected <document start>"
      next
      let u ← peek
      if endsDocument u.kind then pure (emptyAt u.start) else node fuel true false
    else node fuel true false
  let t ← peek
  if t.kind == .documentEnd then next
  return some root

end Composer

namespace YamlDocument

/-- The first document of a text, or `none` when the text holds no document. -/
def read (text : String) : Except YamlProblem (Option YamlDocument) := do
  let scan ← Scanner.ofText text
  let (root, c) ← Composer.document.run { scan }
  pure (root.map fun r => { root := r, anchored := c.anchored, bound := 4 * scan.text.size + 16 })

end YamlDocument

end TradeLedger
