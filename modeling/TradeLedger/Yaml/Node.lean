import TradeLedger.Text.Utf8
/-!
# YAML documents as trees

A YAML document is a tree of scalars, sequences and mappings, each with its tag and the line it
starts on. A node may carry an anchor, and a later reference (`*name`) stands for the anchored
node: the document keeps its anchored nodes in a table, and a reference points into it, so a
document is a graph read through the table.

## Main definitions

* `Yaml`, `YamlDocument`: nodes and a document with its table.
-/

namespace TradeLedger

/-- A node of a YAML document. A reference carries its name, a serial number telling it apart
from other references, and the place of its anchored node in the document's table. -/
inductive Yaml where
  | scalar (text : String) (tag : String) (line : Nat)
  | sequence (items : List Yaml) (tag : String) (line : Nat)
  | mapping (entries : List (Yaml × Yaml)) (tag : String) (line : Nat)
  | reference (name : String) (serial : Nat) (target : Nat) (line : Nat)
  deriving Repr, Inhabited

/-- A YAML document: its root, the nodes its anchors name, by their place, and a bound above
the number of its nodes. -/
structure YamlDocument where
  root : Yaml
  anchored : Array Yaml
  bound : Nat
  deriving Repr, Inhabited

namespace Yaml

/-- The line a node starts on, from one. -/
def line : Yaml → Nat
  | .scalar _ _ n | .sequence _ _ n | .mapping _ _ n | .reference _ _ _ n => n

/-- The tag of a node; a reference has none of its own. -/
def tag : Yaml → String
  | .scalar _ t _ | .sequence _ t _ | .mapping _ t _ => t
  | .reference .. => ""

/-- What makes two mapping keys the same: their kind and their text (a reference's text is its
name, a collection's is empty). -/
def identity : Yaml → Nat × String
  | .scalar text _ _ => (0, text)
  | .mapping .. => (1, "")
  | .sequence .. => (2, "")
  | .reference name .. => (3, name)

/-- The text of a node as a refusal shows it: a scalar's text, empty for the rest. -/
def text : Yaml → String
  | .scalar t _ _ => t
  | .reference name .. => name
  | _ => ""

/-- How a refusal names a node: its tag and, unless it is a sequence or mapping tag, its text
in backticks, cut to seven bytes and an ellipsis when longer than ten. -/
def shown (n : Yaml) : String :=
  let tag := n.tag
  if tag == "!!seq" || tag == "!!map" then tag
  else
    let bytes := Utf8.encode n.text
    let value := if bytes.length > 10 then Utf8.lossy (bytes.take 7) ++ "..." else n.text
    tag ++ " `" ++ value ++ "`"

end Yaml

end TradeLedger
