import Gabarit.Value.Equal
import Gabarit.Yaml.Document

/-!
# Values of documents

* `Node.mergeAll`: the nodes with their mappings merged;
* `Node.build`: the value of a node, and the faults in it;
* `load`: the value of a document.

Of several faults the one counts that stands in the fewest collections, and of these the first one: the
members of a collection come after all that stands beside it.
-/

namespace Gabarit.Yaml

/-! ## Merging mappings -/

/-- A key that has no value. -/
def Node.valueless : Node := .scalar .other []

/-- The entries of a mapping. -/
def Node.entries? : Node → Option (List (Node × Node))
  | .mapping _ entries => some entries
  | _ => none

/-- The entries that a node brings into a mapping: those of a mapping, or of several, of which the first
ones come last to win over the others. -/
def Node.mergedEntries? : Node → Option (List (Node × Node))
  | .sequence _ items => (items.mapM entries?).map fun parts => parts.reverse.flatten
  | node => node.entries?

/-- The entries of a mapping, after those that are merged into it. -/
def mergeEntries (entries : List (Node × Node)) : List (Node × Node) :=
  let (merges, own) := entries.partition fun (k, _) => match k with
    | .scalar .merge _ => true
    | _ => false
  match merges.mapM fun (_, v) => v.mergedEntries? with
  | some parts => parts.flatten ++ own
  | none => [(.valueless, .empty)]

mutual

/-- The node with its mappings merged. The pairs of an ordered mapping are not merged themselves. -/
def Node.mergeAll : Node → Node
  | .scalar tag text => .scalar tag text
  | .sequence tag items => .sequence tag (mergeItems (tag == .omap || tag == .pairs) items)
  | .mapping tag entries => .mapping tag (mergeEntries (mergeParts entries))

/-- The items of a sequence with their mappings merged. -/
def mergeItems (paired : Bool) : List Node → List Node
  | [] => []
  | .mapping tag entries :: rest =>
    let parts := mergeParts entries
    .mapping tag (if paired then parts else mergeEntries parts) :: mergeItems paired rest
  | .scalar tag text :: rest => .scalar tag text :: mergeItems paired rest
  | .sequence tag items :: rest =>
    .sequence tag (mergeItems (tag == .omap || tag == .pairs) items) :: mergeItems paired rest

/-- The keys and values of a mapping with their mappings merged. -/
def mergeParts : List (Node × Node) → List (Node × Node)
  | [] => []
  | (k, v) :: rest => (k.mergeAll, v.mergeAll) :: mergeParts rest

end

/-! ## Values of nodes -/

/-- The value of a text by its type, if this is one of forms. -/
def formValue (tag : Tag) (text : List Char) : Except Fault Value :=
  match tag with
  | .bool =>
    match truthWords.lookup (Text.lower (String.ofList text)) with
    | some b => .ok (.bool b)
    | none => .error .notTruth
  | .int => (intOfText text).map .int
  | .float => (floatOfText text).map .float
  | .binary => (bytesOfText text).map .bytes
  | .timestamp => (timestampOfText text).map fun
    | .inl d => .date d
    | .inr t => .timestamp t
  | _ => .error .badNode

/-- The fault of a text of no form. -/
def formFault : Tag → Fault
  | .bool => .notTruth
  | .int | .float => .badNumber
  | .timestamp => .notTimestamp
  | _ => .badNode

/-- The value of a text by its type. A text with a surrogate has no form. -/
def scalarValue (tag : Tag) (text : List Text.Point) : Except Fault Value :=
  match tag with
  | .null => .ok .none
  | .str => .ok (.ofPoints text)
  | tag =>
    match Text.chars? text with
    | some cs => formValue tag cs
    | none => .error (formFault tag)

/-- Values of these types are collections. -/
def Tag.isCollection : Tag → Bool
  | .seq | .map | .set | .omap | .pairs => true
  | _ => false

mutual

/-- The text of a scalar. A mapping stands for its default value. -/
def Node.text? : Node → Option (List Text.Point)
  | .scalar _ text => some text
  | .sequence .. => none
  | .mapping _ entries => defaultText? entries

/-- The text of the default value among entries. -/
def defaultText? : List (Node × Node) → Option (List Text.Point)
  | [] => none
  | (.scalar .value _, v) :: _ => v.text?
  | _ :: rest => defaultText? rest

end

/-- Faults, each with the number of collections it stands in. -/
abbrev Faults := List (Nat × Fault)

/-- The faults seen from around a collection. -/
def Faults.deeper (fs : Faults) : Faults := fs.map fun (depth, f) => (depth + 1, f)

/-- The fault that counts. -/
def Faults.first? : Faults → Option (Nat × Fault)
  | [] => none
  | f :: rest =>
    match first? rest with
    | some g => some (if g.1 < f.1 then g else f)
    | none => some f

/-- The value of a text, or nothing and its fault. -/
def buildScalar (tag : Tag) (text : Option (List Text.Point)) : Value × Faults :=
  match text with
  | none => (.none, [(0, .badNode)])
  | some text =>
    match scalarValue tag text with
    | .ok v => (v, [])
    | .error f => (.none, [(0, f)])

/-- The type of a node. -/
def Node.tag : Node → Tag
  | .scalar tag _ | .sequence tag _ | .mapping tag _ => tag

mutual

/-- The value of a node, and the faults in it. -/
def Node.build : Node → Value × Faults
  | .scalar tag text =>
    if tag.isCollection then (.none, [(1, .badNode)]) else buildScalar tag (some text)
  | .sequence tag items =>
    match tag with
    | .seq =>
      let (values, faults) := buildItems items
      (.list values, faults.deeper)
    | .omap | .pairs =>
      let (values, faults) := buildPairs items
      (.list values, faults.deeper)
    | _ => (.none, [(if tag.isCollection then 1 else 0, .badNode)])
  | .mapping tag entries =>
    match tag with
    | .map =>
      let (built, faults) := buildEntries entries
      (.dict (Value.ofEntries built), faults.deeper)
    | .set =>
      let (built, faults) := buildEntries entries
      (.set ((Value.ofEntries built).map Prod.fst), faults.deeper)
    | _ =>
      if tag.isCollection then (.none, [(1, .badNode)])
      else buildScalar tag (defaultText? entries)

/-- The values of items. -/
def buildItems : List Node → List Value × Faults
  | [] => ([], [])
  | item :: rest =>
    let (v, fs) := item.build
    let (vs, gs) := buildItems rest
    (v :: vs, fs ++ gs)

/-- The values of items that are mappings of one entry. -/
def buildPairs : List Node → List Value × Faults
  | [] => ([], [])
  | .mapping _ [(key, value)] :: rest =>
    let (k, fs) := key.build
    let (v, gs) := value.build
    let (vs, hs) := buildPairs rest
    (.tuple [k, v] :: vs, fs ++ gs ++ hs)
  | _ => ([], [(0, .badNode)])

/-- The values of the entries of a mapping. A collection is no key. -/
def buildEntries : List (Node × Node) → List (Value × Value) × Faults
  | [] => ([], [])
  | (key, value) :: rest =>
    let (k, fs) := match key with
      | .scalar .value text => (Value.ofPoints text, [])
      | key => key.build
    let (v, gs) := value.build
    let (es, hs) := buildEntries rest
    ((k, v) :: es, fs ++ (if key.tag.isCollection then [(0, Fault.badNode)] else []) ++ gs ++ hs)

end

/-! ## Documents -/

/-- A character that a document can hold. -/
def isAllowed (c : Char) : Bool :=
  let n := c.toNat
  n == 9 || n == 10 || n == 13 || (0x20 ≤ n && n ≤ 0x7e) || n == 0x85 || (0xa0 ≤ n && n ≤ 0xfffd) ||
    0x10000 ≤ n

/-- The value of a document; without one there is nothing. -/
def load (s : String) : Except Fault Value := do
  let cs := s.toList
  if !cs.all isAllowed then throw .unprintable
  let some node ← readDocument cs | return .none
  let (v, faults) := node.mergeAll.build
  match faults.first? with
  | some (_, fault) => throw fault
  | none => return v

end Gabarit.Yaml
