import Gabarit.Template.FilterCall
import Gabarit.Template.Path

/-!
# Programs

A compiled template is a flat list of nodes. The opening node of a block holds the index of the node
that closes it, and the closing node that of the opening one.

* `Node`, `Program`: the nodes and the compiled template;
* `Node.close?`: where a block that opens here is closed;
* `Program.problem?`: the first block whose indexes do not pair up.
-/

namespace Gabarit

/-- A node of a compiled template. -/
inductive Node where
  | text (s : String)
  /-- Writes a field, through filters; it is escaped or not. -/
  | echo (path : FieldPath) (filters : List FilterCall) (escape : Bool)
  /-- Opens a block that is written for each item of a field. -/
  | loop (path : FieldPath) (close : Int)
  /-- Opens a block that is written if a field is true, or equals the operand. -/
  | cond (path : FieldPath) (close : Int) (compares : Bool) (operand : Scalar)
  /-- Closes the block that the node at `opener` opens. -/
  | close (opener : Int)
  deriving DecidableEq

/-- A compiled template. -/
structure Program where
  nodes : Array Node
  version : Int
  deriving DecidableEq

/-- The version of the layout of nodes. -/
def layoutVersion : Int := 1

namespace Node

/-- The index of the closing node, for a node that opens a block. -/
def close? : Node → Option Int
  | .loop _ target | .cond _ target _ _ => some target
  | _ => none

/-- Sets the index of the closing node. -/
def withClose (target : Int) : Node → Node
  | .loop path _ => .loop path target
  | .cond path _ compares operand => .cond path target compares operand
  | node => node

/-- The tag of a node that opens a block, as messages tell it. -/
def openingText : Node → String
  | .loop path _ => "foreach " ++ path.expr
  | .cond path .. => "if " ++ path.expr
  | .text _ => "text"
  | .echo .. => "echo"
  | .close _ => "end"

/-- What is wrong with the indexes of the node at `index`. -/
def problem? (nodes : Array Node) (index : Nat) (node : Node) : Option ArtifactProblem :=
  match node.close? with
  | some target =>
    if ¬ ((index : Int) < target ∧ target < nodes.size) then some (.jump index target)
    else match nodes[target.toNat]? with
    | some (.close opener) => if opener = index then none else some (.notClosed index target)
    | _ => some (.notClosed index target)
  | none =>
    match node with
    | .close opener =>
      if ¬ (0 ≤ opener ∧ opener < index) then some (.closer index opener)
      else match nodes[opener.toNat]?.bind close? with
      | some target => if target = index then none else some (.notOpened index opener)
      | none => some (.notOpened index opener)
    | _ => none

end Node

/-- The first block whose indexes do not pair up, told by the first node that shows it. -/
def Program.problem? (p : Program) : Option ArtifactProblem :=
  p.nodes.toList.zipIdx.findSome? fun (node, index) => node.problem? p.nodes index

end Gabarit
