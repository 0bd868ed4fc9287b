import Gabarit.Template.FilterCall
import Gabarit.Template.Path

/-!
# Conditions

A condition is a field path, which is tested for truth, or a path and a literal, which are compared.

* `Condition`: a condition;
* `Condition.parse`: reading a condition.
-/

namespace Gabarit

/-- What a block asks: the truth of a field, or whether it equals a literal. -/
structure Condition where
  path : FieldPath
  /-- The field is compared with `operand`. -/
  compares : Bool
  operand : Scalar
  deriving DecidableEq

namespace Condition

/-- Splits a text at its first equality sign. -/
def splitEquality? : List Char → Option (List Char × List Char)
  | '=' :: '=' :: rest => some ([], rest)
  | c :: rest => (splitEquality? rest).map fun (left, right) => (c :: left, right)
  | [] => none

/-- Reads a condition. The path is read before the literal. -/
def parse (s : String) : Except Failure Condition :=
  match splitEquality? s.toList with
  | none => do return ⟨← FieldPath.parse s, false, .null⟩
  | some (left, right) =>
    if (splitEquality? right).isSome then .error (.tag s .manyComparisons)
    else do
      let path ← FieldPath.parse (String.ofList left)
      return ⟨path, true, ← Scalar.parse (String.ofList right)⟩

end Condition

end Gabarit
