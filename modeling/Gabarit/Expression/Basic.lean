import Gabarit.Value.Basic

/-!
# Expressions

The parts of an expression that decide whether it is a filter call or a literal. All other forms are
`other`.

* `Scalar`, `Scalar.ofPoints`: the literals that a tag can hold, and those that are texts;
* `Expr`: expressions;
* `Expr.isTarget`: expressions that a comprehension can bind.
-/

namespace Gabarit

/-- A literal in a tag. -/
inductive Scalar where
  | null
  | bool (b : Bool)
  | int (n : Int)
  | float (x : Binary64)
  | text (s : String)
  /-- A text with a surrogate in it. -/
  | broken (t : Text.Broken)
  deriving DecidableEq

/-- The literal of a text. -/
def Scalar.ofPoints (ps : List Text.Point) : Scalar := (Text.ofPoints ps).elim .text .broken

/-- The value that a literal stands for. -/
def Scalar.toValue : Scalar → Value
  | .null => .none
  | .bool b => .bool b
  | .int n => .int n
  | .float x => .float x
  | .text s => .str s
  | .broken t => .broken t

namespace Expression

/-- An expression. -/
inductive Expr where
  | name (s : String)
  | scalar (v : Scalar)
  /-- A literal that is no scalar, such as bytes. -/
  | constant
  | imaginary
  | call (function : Expr) (arguments : List Expr) (named : Bool)
  /-- An expression after a sign. -/
  | signed (negative : Bool) (e : Expr)
  /-- A sum or a difference. -/
  | sum (negative : Bool) (left right : Expr)
  | tuple (xs : List Expr)
  | list (xs : List Expr)
  | set (xs : List Expr)
  | dict (entries : List (Expr × Expr))
  /-- An attribute or an element. -/
  | access
  | starred (e : Expr)
  | assignment
  | other

mutual

/-- The expression can be bound by a comprehension. -/
def Expr.isTarget : Expr → Bool
  | .name _ | .access => true
  | .tuple xs | .list xs => areTargets xs
  | .starred e => e.isTarget
  | _ => false
termination_by structural e => e

/-- All of the expressions can be bound. -/
def areTargets : List Expr → Bool
  | [] => true
  | x :: xs => x.isTarget && areTargets xs
termination_by structural xs => xs

end

/-- An expression that a colon may follow as a key or a bound. -/
def Expr.isPlain : Expr → Bool
  | .assignment | .starred _ => false
  | _ => true

end Expression

end Gabarit
