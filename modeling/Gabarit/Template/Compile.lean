import Gabarit.Filter.Registry
import Gabarit.Template.Condition
import Gabarit.Template.Program
import Gabarit.Template.Segment

/-!
# Compiling templates

The segments of a template become nodes one by one. Blocks that are still open are kept on a stack; the
tag that ends the innermost one links the two.

* `Tag`: what a segment means on its own;
* `Tag.ofSegment`: reading a segment, where filter calls are checked against a registry;
* `Draft`, `Draft.add`: the nodes so far and the open blocks;
* `compile`: the program of a template.
-/

namespace Gabarit

/-- What a segment means on its own. -/
inductive Tag where
  /-- A node that opens or closes no block. -/
  | plain (node : Node)
  /-- A node that opens a block; it is not linked yet. -/
  | opening (node : Node)
  | ending

/-- An index that points nowhere. -/
def unlinked : Int := -1

namespace Tag

/-- The stage that writes a field as it is; what is piped after it is dropped. -/
def bypass : List Char := "none".toList

/-- Reads and checks the stages of a pipeline in order. -/
def stages (registry : Registry) : List (List Char) → Except Failure (List FilterCall)
  | [] => .ok []
  | s :: rest => do
    let call ← FilterCall.parse (String.ofList s)
    registry.check call
    return call :: (← stages registry rest)

/-- Reads an interpolation. Only a field without any stage is escaped. -/
def ofEcho (registry : Registry) (payload : List Char) : Except Failure Tag := do
  let pieces := pipeStages payload
  let path ← FieldPath.parse (String.ofList (pieces.headD []))
  match pieces.tail with
  | [] => return .plain (.echo path [] true)
  | first :: rest =>
    if first = bypass then return .plain (.echo path [] false)
    else return .plain (.echo path (← stages registry (first :: rest)) false)

/-- Splits a block tag at its first space into the keyword and the argument. -/
def splitKeyword (cs : List Char) : List Char × List Char :=
  (cs.takeWhile (· ≠ ' '), (cs.dropWhile (· ≠ ' ')).drop 1)

/-- Reads a block tag. -/
def ofBlock (payload : List Char) : Except Failure Tag :=
  let body := Text.trim payload
  let token := String.ofList body
  if token = "end" then .ok .ending
  else
    let (keyword, argument) := splitKeyword body
    let word := String.ofList keyword
    if word ≠ "foreach" ∧ word ≠ "if" then .error (.tag token .unknownBlock)
    else if Text.trim argument = [] then .error (.tag token .missingArgument)
    else if word = "foreach" then do
      return .opening (.loop (← FieldPath.parse (String.ofList argument)) unlinked)
    else do
      let c ← Condition.parse (String.ofList argument)
      return .opening (.cond c.path unlinked c.compares c.operand)

/-- Reads a segment. -/
def ofSegment (registry : Registry) : Segment → Except Failure Tag
  | .text cs => .ok (.plain (.text (String.ofList cs)))
  | .echo _ payload => ofEcho registry payload
  | .block _ payload => ofBlock payload

end Tag

/-- The nodes so far, and the open blocks, the innermost first: the index of the opening node and the
place of its tag. -/
structure Draft where
  nodes : Array Node := #[]
  opened : List (Nat × Nat) := []

/-- Adds a tag that stands at `place`. -/
def Draft.add (draft : Draft) (place : Nat) : Tag → Except Failure Draft
  | .plain node => .ok { draft with nodes := draft.nodes.push node }
  | .opening node => .ok ⟨draft.nodes.push node, (draft.nodes.size, place) :: draft.opened⟩
  | .ending =>
    match draft.opened with
    | [] => .error (.tag "end" .unexpectedEnd)
    | (opener, _) :: rest =>
      .ok ⟨(draft.nodes.modify opener (Node.withClose draft.nodes.size)).push (.close opener), rest⟩

/-- The line of a place: one more than the line feeds before it. -/
def lineAt (source : List Char) (place : Nat) : Nat := (source.take place).count '\n' + 1

/-- Reads and adds the segments in order; what fails is told with its line. -/
def draftSegments (registry : Registry) (source : List Char) (name : Option String) (draft : Draft) :
    List Segment.Placed → Except Failure Draft
  | [] => .ok draft
  | (place, segment) :: rest =>
    match (Tag.ofSegment registry segment).bind (draft.add place) with
    | .ok draft => draftSegments registry source name draft rest
    | .error f => .error (f.locate (lineAt source place) name)

/-- The program of a template. The name of the template is for messages only. -/
def compile (registry : Registry) (source : String) (name : Option String := none) :
    Except Failure Program := do
  let cs := source.toList
  let draft ← draftSegments registry cs name {} (placedSegments cs)
  match draft.opened with
  | [] => return ⟨draft.nodes, layoutVersion⟩
  | (opener, place) :: _ =>
    let token := (draft.nodes[opener]?.map Node.openingText).getD ""
    throw (.error (.compile ⟨.unclosedBlock, token, some (lineAt cs place), name⟩))

end Gabarit
