import Gabarit.Error
import Gabarit.Expression.Token
import Gabarit.Text.Basic

/-!
# Field paths

A field path starts with a name; then follow attributes, indexes and quoted keys, as in
`user.rows[0]['first name']`.

* `FieldPath`: the text of a path and its parts;
* `FieldPath.parse`: reading a path.
-/

namespace Gabarit

/-- A path into the data, as it was written and by its parts. -/
structure FieldPath where
  expr : String
  parts : List PathPart
  deriving DecidableEq

namespace FieldPath

/-- Reads an index and the closing bracket after it. -/
def readIndex (cs : List Char) : Option (Bool × List Char × List Char) :=
  let (neg, cs) := match cs with
    | '-' :: r => (true, r)
    | r => (false, r)
  match cs.takeWhile Text.isDigit, cs.dropWhile Text.isDigit with
  | [], _ => none
  | ds, ']' :: rest => some (neg, ds, rest)
  | _, _ => none

/-- Reads a quoted key, without its quotes, and the closing bracket after it. -/
def readKey : List Char → Option (Char × List Char × List Char)
  | q :: r =>
    if q = '\'' ∨ q = '"' then
      match r.dropWhile (· ≠ q) with
      | _ :: ']' :: rest => some (q, r.takeWhile (· ≠ q), rest)
      | _ => none
    else none
  | [] => none

/-- The index that digits write. -/
def indexPart (neg : Bool) (ds : List Char) : Except Failure PathPart :=
  if ds.length > Text.digitLimit then .error (.fault .tooManyDigits)
  else
    let n : Int := Text.numeralValue ds
    .ok (.index (if neg then -n else n))

/-- The key that the body of a quoted text stands for. -/
def keyPart (q : Char) (body : List Char) : Except Failure PathPart :=
  if body.contains '\x00' then .error (.fault .nulInSource)
  else
    match Expression.readQuoted {} q (Text.unifyLines body ++ [q]) with
    | some (.text ps, []) => .ok (.ofPoints ps)
    | _ => .error (.fault .malformedSource)

/-- Reads the parts after the first name, with more fuel than there are characters. -/
def readParts (expr : String) : Nat → List Char → Except Failure (List PathPart)
  | 0, _ => .error (.tag expr .invalidPath)
  | _, [] => .ok []
  | fuel + 1, c :: rest =>
    let part (p : PathPart) (after : List Char) : Except Failure (List PathPart) :=
      (readParts expr fuel after).map (p :: ·)
    if c = '.' ∧ (rest.head?.map Text.isAsciiStart).getD false then
      part (.name (String.ofList (rest.takeWhile Text.isAsciiContinue)))
        (rest.dropWhile Text.isAsciiContinue)
    else if c = '[' then
      match readIndex rest, readKey rest with
      | some (neg, ds, after), _ => do part (← indexPart neg ds) after
      | _, some (q, body, after) => do part (← keyPart q body) after
      | none, none => .error (.tag expr .invalidPath)
    else .error (.tag expr .invalidPath)

/-- Reads a field path; blanks around it are dropped. -/
def parse (s : String) : Except Failure FieldPath :=
  let cs := Text.trim s.toList
  let expr := String.ofList cs
  match cs with
  | c :: _ =>
    if Text.isAsciiStart c then do
      let parts ← readParts expr (cs.length + 1) (cs.dropWhile Text.isAsciiContinue)
      return ⟨expr, .name (String.ofList (cs.takeWhile Text.isAsciiContinue)) :: parts⟩
    else .error (.tag expr .invalidPath)
  | [] => .error (.tag expr .invalidPath)

end FieldPath

end Gabarit
