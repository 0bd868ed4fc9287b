import Gabarit.Text.Quoted

/-!
# YAML documents

* `Fault`: why a document cannot be read;
* `Tag`: the types of nodes;
* `Node`: a document as a tree, without the ways in which it can be written.
-/

namespace Gabarit.Yaml

/-- Why a document cannot be read. -/
inductive Fault where
  /-- A character that a document cannot hold. -/
  | unprintable
  /-- Characters that are no token. -/
  | badToken
  /-- Tokens that are no node. -/
  | badStructure
  /-- An alias without its anchor, or an anchor that is there twice. -/
  | badAnchor
  /-- More than one document. -/
  | manyDocuments
  /-- A node that its tag does not fit. -/
  | badNode
  /-- A number without any character. -/
  | emptyNumber
  /-- A number, a date or a character code of the wrong form. -/
  | badNumber
  /-- A word that is no truth value. -/
  | notTruth
  /-- A text that is no timestamp. -/
  | notTimestamp
  /-- A character code beyond the range of codes. -/
  | codeRange
  /-- Nodes that nest too deeply. -/
  | tooDeep
  deriving DecidableEq, Repr

/-- The document is malformed as a document; the other faults come from single values. -/
def Fault.isMalformed : Fault → Bool
  | .unprintable | .badToken | .badStructure | .badAnchor | .manyDocuments | .badNode => true
  | _ => false

/-- The type of a node. -/
inductive Tag where
  | null
  | bool
  | int
  | float
  | binary
  | timestamp
  | omap
  | pairs
  | set
  | str
  | seq
  | map
  /-- The key of a mapping that is merged into another one. -/
  | merge
  /-- The key of the default value of a mapping. -/
  | value
  /-- A type that has no values. -/
  | other
  deriving DecidableEq, Repr

/-- The types by the ends of their names. -/
def Tag.names : List (String × Tag) :=
  [("null", .null), ("bool", .bool), ("int", .int), ("float", .float), ("binary", .binary),
    ("timestamp", .timestamp), ("omap", .omap), ("pairs", .pairs), ("set", .set), ("str", .str),
    ("seq", .seq), ("map", .map), ("merge", .merge), ("value", .value)]

/-- The start of the names of types. -/
def Tag.commonStart : String := "tag:yaml.org,2002:"

/-- The type of a name. -/
def Tag.ofName (name : String) : Tag :=
  (((Tag.names.map fun (n, t) => (Tag.commonStart ++ n, t)).lookup name)).getD .other

/-- A node of a document. -/
inductive Node where
  | scalar (tag : Tag) (text : List Text.Point)
  | sequence (tag : Tag) (items : List Node)
  | mapping (tag : Tag) (entries : List (Node × Node))

instance : Inhabited Node := ⟨.scalar .null []⟩

end Gabarit.Yaml
