import Gabarit.Expression.Basic
import Gabarit.Expression.Token

/-!
# Operators

* `Operator`: the binary operators with their precedence;
* `operator?`: the operator at the start of tokens;
* `Operator.combine`: the expression of an operation.
-/

namespace Gabarit.Expression

/-- A binary operator: how tightly it binds, and its sign if it adds or subtracts. -/
structure Operator where
  level : Nat
  sum : Option Bool := none

/-- The precedence of comparisons. -/
def comparisonLevel : Nat := 3

/-- The precedence of operators on bits, which is the lowest that a starred expression may hold. -/
def bitLevel : Nat := 4

/-- The precedence of negation. -/
def notLevel : Nat := 2

/-- The operators that are written with signs. -/
def signOperators : List (String × Operator) :=
  (["==", "!=", "<", ">", "<=", ">="].map fun s => (s, ⟨comparisonLevel, none⟩)) ++
    [("|", ⟨bitLevel, none⟩), ("^", ⟨5, none⟩), ("&", ⟨6, none⟩), ("<<", ⟨7, none⟩),
      (">>", ⟨7, none⟩), ("+", ⟨8, some false⟩), ("-", ⟨8, some true⟩)] ++
    ["*", "/", "//", "%", "@"].map fun s => (s, ⟨9, none⟩)

/-- The binary operator at the start of the tokens, and the tokens after it. -/
def operator? : List Token → Option (Operator × List Token)
  | .op s :: rest => (signOperators.lookup s).map (·, rest)
  | .keyword "or" :: rest => some (⟨0, none⟩, rest)
  | .keyword "and" :: rest => some (⟨1, none⟩, rest)
  | .keyword "in" :: rest => some (⟨comparisonLevel, none⟩, rest)
  | .keyword "not" :: .keyword "in" :: rest => some (⟨comparisonLevel, none⟩, rest)
  | .keyword "is" :: .keyword "not" :: rest => some (⟨comparisonLevel, none⟩, rest)
  | .keyword "is" :: rest => some (⟨comparisonLevel, none⟩, rest)
  | _ => none

/-- An operation; only sums are told from others. -/
def Operator.combine (o : Operator) (left right : Expr) : Expr :=
  match o.sum with
  | some negative => .sum negative left right
  | none => .other

end Gabarit.Expression
