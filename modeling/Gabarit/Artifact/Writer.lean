import Gabarit.Fault
import Gabarit.Number.Shortest
import Gabarit.Template.Program

/-!
# Writing artifacts

A program is stored as compact JSON: the fields of a node in a fixed order after its kind, all of them
written out, and text as it is but for quotes, backslashes and controls.

* `artifactLayout`: how floating-point numbers are written;
* `writeText`, `writeScalar`, `writeNode`: the parts;
* `Program.encode`: the text of a program.

Writing fails only on integers that are too long, and on texts with surrogates.
-/

namespace Gabarit.Artifact

/-- Numbers are positional from `1e-5` up to `1e16`; exponents have no sign unless negative. -/
def artifactLayout : FloatLayout := ⟨-5, 16, false, 1⟩

/-- How a character is written between quotes. -/
def writeChar (c : Char) : List Char :=
  if c = '"' ∨ c = '\\' then ['\\', c]
  else if c = '\x08' then ['\\', 'b']
  else if c = '\t' then ['\\', 't']
  else if c = '\n' then ['\\', 'n']
  else if c = '\x0c' then ['\\', 'f']
  else if c = '\r' then ['\\', 'r']
  else if c.toNat < 32 then '\\' :: 'u' :: Text.hexPadded 4 c.toNat
  else [c]

/-- A text between quotes. -/
def writeText (s : String) : List Char := '"' :: (s.toList.flatMap writeChar ++ ['"'])

/-- A truth value. -/
def writeBool (b : Bool) : List Char := if b then "true".toList else "false".toList

/-- An integer. -/
def writeInt (n : Int) : Except Fault (List Char) :=
  if Text.exceedsDigitLimit n then .error .tooManyDigits else .ok (Text.intNumeral n).toList

/-- A floating-point number; one that is no decimal has no form. -/
def writeFloat (x : Binary64) : List Char :=
  if x.isFinite then x.chars artifactLayout else "null".toList

/-- A scalar. -/
def writeScalar : Scalar → Except Fault (List Char)
  | .null => .ok "null".toList
  | .bool b => .ok (writeBool b)
  | .int n => writeInt n
  | .float x => .ok (writeFloat x)
  | .text s => .ok (writeText s)
  | .broken _ => .error .surrogate

/-- Members divided by commas. -/
def writeMembers : List (List Char) → List Char
  | [] => []
  | [m] => m
  | m :: rest => m ++ ',' :: writeMembers rest

/-- Members in square brackets. -/
def writeArray (members : List (List Char)) : List Char := '[' :: (writeMembers members ++ [']'])

/-- A field of an object. -/
def writeField (name : String) (value : List Char) : List Char := writeText name ++ ':' :: value

/-- Fields in braces. -/
def writeObject (fields : List (List Char)) : List Char :=
  '\x7b' :: (writeMembers fields ++ ['\x7d'])

/-- A part of a path. -/
def writePart : PathPart → Except Fault (List Char)
  | .name s => .ok (writeText s)
  | .index n => writeInt n
  | .broken _ => .error .surrogate

/-- A field path. -/
def writePath (p : FieldPath) : Except Fault (List Char) := do
  let parts ← p.parts.mapM writePart
  return writeObject [writeField "expr" (writeText p.expr), writeField "parts" (writeArray parts)]

/-- A filter call. -/
def writeCall (c : FilterCall) : Except Fault (List Char) := do
  let args ← c.args.mapM writeScalar
  let slot ← writeInt c.slot
  return writeObject [writeField "name" (writeText c.name), writeField "args" (writeArray args),
    writeField "slot" slot]

/-- The name of the kind of a node. -/
def kindName : Node → String
  | .text _ => "text"
  | .echo .. => "echo"
  | .loop .. => "foreach"
  | .cond .. => "if"
  | .close _ => "end"

/-- The fields of a node after its kind. -/
def nodeFields : Node → Except Fault (List (List Char))
  | .text s => .ok [writeField "text" (writeText s)]
  | .echo path filters escape => do
    let p ← writePath path
    let calls ← filters.mapM writeCall
    return [writeField "path" p, writeField "filters" (writeArray calls),
      writeField "escape" (writeBool escape)]
  | .loop path target => do
    return [writeField "path" (← writePath path), writeField "end" (← writeInt target)]
  | .cond path target compares operand => do
    let p ← writePath path
    let e ← writeInt target
    let o ← writeScalar operand
    return [writeField "path" p, writeField "end" e,
      writeField "op" (if compares then writeText "==" else "null".toList), writeField "operand" o]
  | .close opener => do return [writeField "start" (← writeInt opener)]

/-- A node. -/
def writeNode (node : Node) : Except Fault (List Char) := do
  return writeObject (writeField "kind" (writeText (kindName node)) :: (← nodeFields node))

/-- A program. -/
def writeProgram (p : Program) : Except Fault (List Char) := do
  let nodes ← p.nodes.toList.mapM writeNode
  return writeObject [writeField "nodes" (writeArray nodes), writeField "version" (← writeInt p.version)]

end Gabarit.Artifact

namespace Gabarit

/-- The text of the artifact of a program. -/
def Program.encode (p : Program) : Except Fault String :=
  (Artifact.writeProgram p).map String.ofList

end Gabarit
