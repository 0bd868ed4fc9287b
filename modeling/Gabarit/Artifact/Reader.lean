import Gabarit.Artifact.Json
import Gabarit.Charset.Utf8
import Gabarit.Template.Program

/-!
# Reading artifacts

The reader accepts more than is written: fields in any order, unknown fields, which are passed over,
repeated ones, of which the last counts, and missing ones that have a default.

* `readText`, `readInt`, `readScalar`, `readNode`: the parts of a program;
* `Program.decode`: the program of an artifact.
-/

namespace Gabarit.Artifact

/-- Characters that are the name of a field. -/
def isName (name : String) (key : Input) : Bool := key == name.toList.map some

/-- A text, all of whose bytes are characters. -/
def textOf (s : Input) : Except ArtifactFault String :=
  match s.mapM id with
  | some cs => .ok (String.ofList cs)
  | none => .error .badText

/-- Integers are written with no more characters than this. -/
def integerWidth : Nat := 4300

/-- What a numeral stands for. A number with a point or an exponent is no integer. -/
def numberOf (n : Numeral) : Except ArtifactFault Scalar :=
  if n.isInteger then
    if integerWidth < n.width then .error .wrongShape
    else
      let v : Int := Text.numeralValue n.whole
      .ok (.int (if n.negative then -v else v))
  else
    let x := Binary64.ofDecimal n.negative (Text.numeralValue n.digits) n.scale
    if x.isFinite then .ok (.float x) else .error .wrongShape

/-- Reads a text. -/
def readText (input : Input) : Except ArtifactFault (String × Input) := do
  let (head, rest) ← readHead input
  match head with
  | .text s => return (← textOf s, rest)
  | _ => throw .wrongShape

/-- Reads an integer. -/
def readInt (input : Input) : Except ArtifactFault (Int × Input) := do
  let (head, rest) ← readHead input
  match head with
  | .number n =>
    match ← numberOf n with
    | .int v => return (v, rest)
    | _ => throw .wrongShape
  | _ => throw .wrongShape

/-- Reads a truth value. -/
def readBool (input : Input) : Except ArtifactFault (Bool × Input) := do
  let (head, rest) ← readHead input
  match head with
  | .bool b => return (b, rest)
  | _ => throw .wrongShape

/-- Reads a scalar. -/
def readScalar (input : Input) : Except ArtifactFault (Scalar × Input) := do
  let (head, rest) ← readHead input
  match head with
  | .null => return (.null, rest)
  | .bool b => return (.bool b, rest)
  | .number n => return (← numberOf n, rest)
  | .text s => return (.text (← textOf s), rest)
  | _ => throw .wrongShape

/-- Reads a part of a path. -/
def readPart (input : Input) : Except ArtifactFault (PathPart × Input) := do
  let (v, rest) ← readScalar input
  match v with
  | .text s => return (.name s, rest)
  | .int n => return (.index n, rest)
  | _ => throw .wrongShape

/-- Reads the operator of a condition, which is an equality sign or missing. -/
def readOperator (input : Input) : Except ArtifactFault (Bool × Input) := do
  let (head, rest) ← readHead input
  match head with
  | .null => return (false, rest)
  | .text s => if isName "==" s then return (true, rest) else throw .wrongShape
  | _ => throw .wrongShape

variable {α σ : Type}

/-- Reads an array. -/
def readList (item : Input → Except ArtifactFault (α × Input)) (fuel : Nat) (input : Input) :
    Except ArtifactFault (List α × Input) := do
  let (head, rest) ← readHead input
  match head with
  | .array => readArray item fuel true rest
  | _ => throw .wrongShape

/-- Reads an object with known fields, from what holds without any. -/
def readRecord (field : Input → σ → Input → Except ArtifactFault (σ × Input)) (start : σ)
    (fuel : Nat) (input : Input) : Except ArtifactFault (σ × Input) := do
  let (head, rest) ← readHead input
  match head with
  | .object => readObject field fuel true start rest
  | _ => throw .wrongShape

/-- What has been read of a field path. -/
structure PathDraft where
  expr : Option String := none
  parts : Option (List PathPart) := none

/-- Reads a field of a field path. -/
def pathField (fuel : Nat) (key : Input) (d : PathDraft) (input : Input) :
    Except ArtifactFault (PathDraft × Input) :=
  if isName "expr" key then
    (readText input).map fun (s, rest) => ({ d with expr := some s }, rest)
  else if isName "parts" key then
    (readList readPart fuel input).map fun (ps, rest) => ({ d with parts := some ps }, rest)
  else (skipValue fuel nestingLimit input).map fun (_, rest) => (d, rest)

/-- Reads a field path. -/
def readPath (fuel : Nat) (input : Input) : Except ArtifactFault (FieldPath × Input) := do
  let (d, rest) ← readRecord (pathField fuel) {} fuel input
  match d.expr, d.parts with
  | some expr, some parts => return (⟨expr, parts⟩, rest)
  | _, _ => throw .wrongShape

/-- What has been read of a filter call. -/
structure CallDraft where
  name : Option String := none
  args : List Scalar := []
  slot : Int := 0

/-- Reads a field of a filter call. -/
def callField (fuel : Nat) (key : Input) (d : CallDraft) (input : Input) :
    Except ArtifactFault (CallDraft × Input) :=
  if isName "name" key then
    (readText input).map fun (s, rest) => ({ d with name := some s }, rest)
  else if isName "args" key then
    (readList readScalar fuel input).map fun (vs, rest) => ({ d with args := vs }, rest)
  else if isName "slot" key then
    (readInt input).map fun (n, rest) => ({ d with slot := n }, rest)
  else (skipValue fuel nestingLimit input).map fun (_, rest) => (d, rest)

/-- Reads a filter call. -/
def readCall (fuel : Nat) (input : Input) : Except ArtifactFault (FilterCall × Input) := do
  let (d, rest) ← readRecord (callField fuel) {} fuel input
  match d.name with
  | some name => return (⟨name, d.args, d.slot⟩, rest)
  | none => throw .wrongShape

/-- The kinds of nodes. -/
inductive Kind where
  | text
  | echo
  | loop
  | cond
  | close
  deriving DecidableEq

/-- The kind that a name stands for. -/
def kindOf? (name : Input) : Option Kind :=
  if isName "text" name then some .text
  else if isName "echo" name then some .echo
  else if isName "foreach" name then some .loop
  else if isName "if" name then some .cond
  else if isName "end" name then some .close
  else none

/-- What has been read of a node. -/
structure NodeDraft where
  text : Option String := none
  path : Option FieldPath := none
  filters : List FilterCall := []
  escape : Bool := true
  target : Option Int := none
  compares : Bool := false
  operand : Scalar := .null
  opener : Option Int := none

/-- Reads the name of a kind. -/
def readKind (input : Input) : Except ArtifactFault (Kind × Input) := do
  match skipSpace input with
  | some '"' :: rest =>
    let (name, rest) ← readString (rest.length + 1) rest
    match kindOf? name with
    | some kind => return (kind, rest)
    | none => throw .wrongShape
  | [] => throw .notJson
  | _ => throw .wrongShape

/-- Reads a field of a node of a known kind. The kind may be told again, if it is the same. -/
def nodeField (fuel : Nat) (kind : Kind) (key : Input) (d : NodeDraft) (input : Input) :
    Except ArtifactFault (NodeDraft × Input) :=
  if isName "kind" key then do
    let (again, rest) ← readKind input
    if again = kind then return (d, rest) else throw .wrongShape
  else if kind = .text ∧ isName "text" key then
    (readText input).map fun (s, rest) => ({ d with text := some s }, rest)
  else if (kind = .echo ∨ kind = .loop ∨ kind = .cond) ∧ isName "path" key then
    (readPath fuel input).map fun (p, rest) => ({ d with path := some p }, rest)
  else if kind = .echo ∧ isName "filters" key then
    (readList (readCall fuel) fuel input).map fun (cs, rest) => ({ d with filters := cs }, rest)
  else if kind = .echo ∧ isName "escape" key then
    (readBool input).map fun (b, rest) => ({ d with escape := b }, rest)
  else if (kind = .loop ∨ kind = .cond) ∧ isName "end" key then
    (readInt input).map fun (n, rest) => ({ d with target := some n }, rest)
  else if kind = .cond ∧ isName "op" key then
    (readOperator input).map fun (b, rest) => ({ d with compares := b }, rest)
  else if kind = .cond ∧ isName "operand" key then
    (readScalar input).map fun (v, rest) => ({ d with operand := v }, rest)
  else if kind = .close ∧ isName "start" key then
    (readInt input).map fun (n, rest) => ({ d with opener := some n }, rest)
  else (skipValue fuel nestingLimit input).map fun (_, rest) => (d, rest)

/-- The node of a kind, if nothing that it needs is missing. -/
def NodeDraft.node? (d : NodeDraft) : Kind → Option Node
  | .text => d.text.map .text
  | .echo => d.path.map fun p => .echo p d.filters d.escape
  | .loop => match d.path, d.target with
    | some p, some n => some (.loop p n)
    | _, _ => none
  | .cond => match d.path, d.target with
    | some p, some n => some (.cond p n d.compares d.operand)
    | _, _ => none
  | .close => d.opener.map .close

/-- Finds the kind of a node after its bracket; the fields before it are passed over. It is told with
the input after it, if it comes first. -/
def findKind (fuel : Nat) : Nat → Bool → Input → Except ArtifactFault (Kind × Option Input)
  | 0, _, _ => .error .notJson
  | n + 1, first, input => do
    let (more, rest) ← nextMember '\x7d' first input
    if more then
      let (key, rest) ← readKey rest
      if isName "kind" key then
        let (kind, rest) ← readKind rest
        return (kind, if first then some rest else none)
      else
        let (_, rest) ← skipValue fuel nestingLimit rest
        findKind fuel n false rest
    else throw .wrongShape

/-- Reads a node. Its fields are read once its kind is known. -/
def readNode (fuel : Nat) (input : Input) : Except ArtifactFault (Node × Input) := do
  let (head, rest) ← readHead input
  match head with
  | .object =>
    let (kind, after) ← findKind fuel fuel true rest
    let (d, rest) ← match after with
      | some after => readObject (nodeField fuel kind) fuel false {} after
      | none => readObject (nodeField fuel kind) fuel true {} rest
    match d.node? kind with
    | some node => return (node, rest)
    | none => throw .wrongShape
  | _ => throw .wrongShape

/-- What has been read of a program. -/
structure ProgramDraft where
  nodes : Option (List Node) := none
  version : Int := layoutVersion

/-- Reads a field of a program. -/
def programField (fuel : Nat) (key : Input) (d : ProgramDraft) (input : Input) :
    Except ArtifactFault (ProgramDraft × Input) :=
  if isName "nodes" key then
    (readList (readNode fuel) fuel input).map fun (ns, rest) => ({ d with nodes := some ns }, rest)
  else if isName "version" key then
    (readInt input).map fun (n, rest) => ({ d with version := n }, rest)
  else (skipValue fuel nestingLimit input).map fun (_, rest) => (d, rest)

/-- Reads a whole program; only blanks may follow it. -/
def readProgram (input : Input) : Except ArtifactFault Program := do
  let fuel := input.length + 1
  let (d, rest) ← readRecord (programField fuel) {} fuel input
  match d.nodes with
  | none => throw .wrongShape
  | some nodes => if (skipSpace rest).isEmpty then return ⟨nodes.toArray, d.version⟩ else throw .notJson

end Gabarit.Artifact

namespace Gabarit

/-- The program of an artifact. -/
def Program.decode (bytes : List UInt8) : Except ArtifactFault Program :=
  Artifact.readProgram (Utf8.symbols bytes)

end Gabarit
