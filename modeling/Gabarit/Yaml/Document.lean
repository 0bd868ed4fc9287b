import Gabarit.Yaml.Implicit
import Gabarit.Yaml.Token

/-!
# Nodes from tokens

A document is read from its tokens by one function for each form of a node.

* `Reading`, `Reader`: what is left of the tokens, with the anchors and the handles of tags so far;
* `readNode` and the functions beside it: the forms of nodes;
* `readDocument`: the only document of a stream.
-/

namespace Gabarit.Yaml

/-- What is left of the tokens, and what is known so far. -/
structure Reading where
  tokens : List Token
  /-- The fault that stands after the tokens. -/
  fault : Option Fault
  /-- The nodes of anchors, the newest first; a node that is not complete is missing. -/
  anchors : List (String × Option Node) := []
  handles : List (String × String) := []

/-- Reads from the tokens. -/
abbrev Reader := StateT Reading (Except Fault)

/-- A plain text without characters. -/
def Node.empty : Node := .scalar .null []

namespace Reader

/-- The next token. -/
def peek : Reader Token := do
  let s ← get
  match s.tokens with
  | t :: _ => return t
  | [] => throw (s.fault.getD .badStructure)

/-- Passes over the next token. -/
def advance : Reader Unit := modify fun s => { s with tokens := s.tokens.tail }

/-- Passes over a token, if it is the next one. -/
def accept (t : Token) : Reader Bool := do
  if (← peek) == t then
    advance
    return true
  else return false

/-- Passes over a token that has to be the next one. -/
def expect (t : Token) : Reader Unit := do
  if !(← accept t) then throw .badStructure

/-- Reads a node, unless one of some tokens shows that there is none. -/
def orEmpty (ends : List Token) (read : Reader Node) : Reader Node := do
  if ends.contains (← peek) then return .empty else read

/-- Reads a node after a colon, if there is one. -/
def afterColon (ends : List Token) (read : Reader Node) : Reader Node := do
  if ← accept .value then orEmpty ends read else return .empty

/-- Reads an anchor, if there is one. -/
def takeAnchor : Reader (Option String) := do
  match ← peek with
  | .anchor name =>
    advance
    return some name
  | _ => return none

/-- Reads a tag, if there is one, and tells its full name. -/
def takeTag : Reader (Option (Option String × String)) := do
  match ← peek with
  | .tag handle suffix =>
    advance
    return some (handle, suffix)
  | _ => return none

/-- The full name of a tag. -/
def fullName : Option String × String → Reader String
  | (none, suffix) => return suffix
  | (some handle, suffix) => do
    match (← get).handles.lookup handle with
    | some start => return start ++ suffix
    | none => throw .badStructure

/-- Reads the anchor and the tag before a node, in any order. -/
def properties : Reader (Option String × Option String) := do
  let first ← takeAnchor
  let tag ← takeTag
  let anchor ← if first.isNone && tag.isSome then takeAnchor else pure first
  return (anchor, ← tag.mapM fullName)

/-- Reads a node under an anchor, which has to be a new one. -/
def anchored (anchor : Option String) (read : Reader Node) : Reader Node := do
  let some name := anchor | read
  if (← get).anchors.any (·.1 == name) then throw .badAnchor
  modify fun s => { s with anchors := (name, none) :: s.anchors }
  let node ← read
  modify fun s => { s with anchors := (name, some node) :: s.anchors }
  return node

/-- The node of an anchor. A node that holds itself has no end. -/
def aliased (name : String) : Reader Node := do
  match (← get).anchors.lookup name with
  | some (some node) => return node
  | some none => throw .tooDeep
  | none => throw .badAnchor

end Reader

/-- The type of a text. Its form decides when it is plain, or when its tag is a lone exclamation mark. -/
def scalarTag (plain : Bool) (tag : Option String) (text : List Text.Point) : Tag :=
  match tag with
  | none => if plain then Tag.ofForm text else .str
  | some "!" => Tag.ofForm text
  | some name => Tag.ofName name

/-- The type of a collection. -/
def collectionTag (usual : Tag) : Option String → Tag
  | none | some "!" => usual
  | some name => Tag.ofName name

/-- How deeply nodes can nest. How far the reader can go down depends on where it is called, and on settings of the
platform: this is the depth for the usual ones. -/
def depthLimit : Nat := 480

open Reader

mutual

/-- Reads a node. In a block it can be a block of its own; a sequence as the value of a key need not be
indented. -/
def readNode (block indentless : Bool) (depth : Nat) : Nat → Reader Node
  | 0 => throw .tooDeep
  | fuel + 1 => do
    if let .alias name ← peek then
      advance
      return ← aliased name
    let (anchor, tag) ← properties
    let sequence (items : Reader (List Node)) : Reader Node := anchored anchor do
      if depth ≥ depthLimit then throw .tooDeep
      return .sequence (collectionTag .seq tag) (← items)
    let mapping (entries : Reader (List (Node × Node))) : Reader Node := anchored anchor do
      if depth ≥ depthLimit then throw .tooDeep
      return .mapping (collectionTag .map tag) (← entries)
    let missing : Reader Node := do
      if anchor.isSome || tag.isSome then
        anchored anchor (return .scalar (scalarTag true tag []) [])
      else throw .badStructure
    match ← peek with
    | .scalar plain text =>
      advance
      anchored anchor (return .scalar (scalarTag plain tag text) text)
    | .flowSequence =>
      advance
      sequence (readFlowItems true (depth + 1) fuel)
    | .flowMapping =>
      advance
      mapping (readFlowEntries true (depth + 1) fuel)
    | .blockEntry => if indentless then sequence (readLooseItems (depth + 1) fuel) else missing
    | .blockSequence =>
      if block then
        advance
        sequence (readBlockItems (depth + 1) fuel)
      else missing
    | .blockMapping =>
      if block then
        advance
        mapping (readBlockEntries (depth + 1) fuel)
      else missing
    | _ => missing
termination_by structural fuel => fuel

/-- Reads the items of a sequence in a block of its own. -/
def readBlockItems (depth : Nat) : Nat → Reader (List Node)
  | 0 => throw .tooDeep
  | fuel + 1 => do
    if ← accept .blockEntry then
      let item ← orEmpty [.blockEntry, .blockEnd] (readNode true false depth fuel)
      return item :: (← readBlockItems depth fuel)
    else
      expect .blockEnd
      return []
termination_by structural fuel => fuel

/-- Reads the items of a sequence that is not indented. -/
def readLooseItems (depth : Nat) : Nat → Reader (List Node)
  | 0 => throw .tooDeep
  | fuel + 1 => do
    if ← accept .blockEntry then
      let item ← orEmpty [.blockEntry, .key, .value, .blockEnd] (readNode true false depth fuel)
      return item :: (← readLooseItems depth fuel)
    else return []
termination_by structural fuel => fuel

/-- Reads the entries of a mapping in a block. -/
def readBlockEntries (depth : Nat) : Nat → Reader (List (Node × Node))
  | 0 => throw .tooDeep
  | fuel + 1 => do
    if ← accept .key then
      let key ← orEmpty [.key, .value, .blockEnd] (readNode true true depth fuel)
      let value ← afterColon [.key, .value, .blockEnd] (readNode true true depth fuel)
      return (key, value) :: (← readBlockEntries depth fuel)
    else
      expect .blockEnd
      return []
termination_by structural fuel => fuel

/-- Reads the items of a sequence in brackets. A key among them makes a mapping of one entry. -/
def readFlowItems (first : Bool) (depth : Nat) : Nat → Reader (List Node)
  | 0 => throw .tooDeep
  | fuel + 1 => do
    if ← accept .flowSequenceEnd then return []
    if !first then expect .flowEntry
    if ← accept .flowSequenceEnd then return []
    let item ←
      if ← accept .key then
        let key ← orEmpty [.value, .flowEntry, .flowSequenceEnd] (readNode false false (depth + 1) fuel)
        let value ← afterColon [.flowEntry, .flowSequenceEnd] (readNode false false (depth + 1) fuel)
        pure (Node.mapping .map [(key, value)])
      else readNode false false depth fuel
    return item :: (← readFlowItems false depth fuel)
termination_by structural fuel => fuel

/-- Reads the entries of a mapping in braces. A node without the mark of a key has no value. -/
def readFlowEntries (first : Bool) (depth : Nat) : Nat → Reader (List (Node × Node))
  | 0 => throw .tooDeep
  | fuel + 1 => do
    if ← accept .flowMappingEnd then return []
    if !first then expect .flowEntry
    if ← accept .flowMappingEnd then return []
    let entry ←
      if ← accept .key then
        let key ← orEmpty [.value, .flowEntry, .flowMappingEnd] (readNode false false depth fuel)
        let value ← afterColon [.flowEntry, .flowMappingEnd] (readNode false false depth fuel)
        pure (key, value)
      else pure (← readNode false false depth fuel, Node.empty)
    return entry :: (← readFlowEntries false depth fuel)
termination_by structural fuel => fuel

end

/-! ## Documents -/

/-- The handles of tags that need no directive. -/
def usualHandles : List (String × String) := [("!", "!"), ("!!", Tag.commonStart)]

/-- Reads directives; a version and each handle can be there once. -/
def readDirectives (versioned : Bool) (handles : List (String × String)) : Nat → Reader Unit
  | 0 => throw .tooDeep
  | fuel + 1 => do
    match ← peek with
    | .version major =>
      if versioned || major != 1 then throw .badStructure
      advance
      readDirectives true handles fuel
    | .handle name start =>
      if handles.any (·.1 == name) then throw .badStructure
      advance
      readDirectives versioned ((name, start) :: handles) fuel
    | .directive =>
      advance
      readDirectives versioned handles fuel
    | _ => modify fun s => { s with handles := handles ++ usualHandles }

/-- Passes over the ends of documents. -/
def skipDocumentEnds : Nat → Reader Unit
  | 0 => throw .tooDeep
  | fuel + 1 => do if ← accept .documentEnd then skipDocumentEnds fuel

/-- Reads on to the start of a document, and tells whether there is one. -/
def nextDocument (fuel : Nat) : Reader Bool := do
  skipDocumentEnds fuel
  if (← peek) == .streamEnd then return false
  readDirectives false [] fuel
  expect .documentStart
  return true

/-- A document starts here without its mark. -/
def startsBare : Token → Bool
  | .version _ | .handle .. | .directive | .documentStart | .streamEnd => false
  | _ => true

/-- A document that starts with its mark has no content before one of these tokens. -/
def endsContent : Token → Bool
  | .documentEnd => true
  | t => !startsBare t

/-- Reads the first document of a stream, if there is one. -/
def firstDocument (fuel : Nat) : Reader (Option Node) := do
  if startsBare (← peek) then return some (← readNode true false 0 fuel)
  if !(← nextDocument fuel) then return none
  if endsContent (← peek) then return some .empty
  return some (← readNode true false 0 fuel)

/-- Reads the only document of a stream, if there is one. -/
def readStream (fuel : Nat) : Reader (Option Node) := do
  let node ← firstDocument fuel
  if ← nextDocument fuel then throw .manyDocuments
  return node

/-- The only document of a text, if there is one. -/
def readDocument (cs : List Char) : Except Fault (Option Node) :=
  let (tokens, fault) := tokens cs
  (readStream (4 * tokens.length + 16)).run' { tokens, fault, handles := usualHandles }

end Gabarit.Yaml
