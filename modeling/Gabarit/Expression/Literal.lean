import Gabarit.Expression.Parser
import Gabarit.Fault

/-!
# Literals

* `Literal`: what a literal expression stands for: a scalar, or something that no tag can hold;
* `Expr.evaluate`: the literal that an expression is, with the faults of reading it.
-/

namespace Gabarit.Expression

/-- What a literal stands for. -/
inductive Literal where
  | scalar (v : Scalar)
  | imaginary
  /-- A literal that is no scalar; `unhashable` is the type that keeps it from being a key. -/
  | compound (unhashable : Option String)

/-- Why an expression is no literal. -/
inductive LiteralFault where
  | notLiteral
  | unhashable (type : String)
  | overflow
  deriving DecidableEq

/-- The fault as one of values. -/
def LiteralFault.toFault : LiteralFault → Fault
  | .notLiteral => .malformedSource
  | .unhashable t => .unhashable t
  | .overflow => .literalOverflow

/-- The type that keeps a literal from being a key. -/
def Literal.unhashable : Literal → Option String
  | .compound t => t
  | _ => none

/-- The literal can be a key. -/
def Literal.asKey (l : Literal) : Except LiteralFault Unit :=
  match l.unhashable with
  | some t => .error (.unhashable t)
  | none => .ok ()

/-- An unsigned number. -/
def Expr.number? : Expr → Option Literal
  | .scalar (.int n) => some (.scalar (.int n))
  | .scalar (.float x) => some (.scalar (.float x))
  | .imaginary => some .imaginary
  | _ => none

/-- A number with its sign changed. -/
def Literal.negate : Literal → Literal
  | .scalar (.int n) => .scalar (.int (-n))
  | .scalar (.float x) => .scalar (.float x.negate)
  | l => l

/-- A number with at most one sign. -/
def Expr.signedNumber? : Expr → Option Literal
  | .signed negative e => e.number?.map fun l => if negative then l.negate else l
  | e => e.number?

/-- The sum of a number and an imaginary one. -/
def addImaginary : Literal → Literal → Except LiteralFault Literal
  | .scalar (.int n), .imaginary =>
    if (Binary64.ofInt n).isInfinite then .error .overflow else .ok (.compound none)
  | .scalar (.float _), .imaginary => .ok (.compound none)
  | _, _ => .error .notLiteral

mutual

/-- The literal that an expression is. -/
def Expr.evaluate : Expr → Except LiteralFault Literal
  | .scalar v => .ok (.scalar v)
  | .constant => .ok (.compound none)
  | .imaginary => .ok .imaginary
  | .signed negative e =>
    match (Expr.signed negative e).signedNumber? with
    | some l => .ok l
    | none => .error .notLiteral
  | .sum _ left right =>
    match left.signedNumber?, right.number? with
    | some a, some b => addImaginary a b
    | _, _ => .error .notLiteral
  | .tuple xs => (evaluateAll xs).map .compound
  | .list xs => (evaluateAll xs).map fun _ => .compound (some "list")
  | .set xs => (evaluateKeys xs).map fun _ => .compound (some "set")
  | .dict es => (evaluateEntries es).map fun _ => .compound (some "dict")
  | .call (.name "set") [] false => .ok (.compound (some "set"))
  | _ => .error .notLiteral
termination_by structural e => e

/-- Evaluates members in order, and tells the first type among them that cannot be a key. -/
def evaluateAll : List Expr → Except LiteralFault (Option String)
  | [] => .ok none
  | x :: xs => do
    let l ← x.evaluate
    let rest ← evaluateAll xs
    return l.unhashable.or rest
termination_by structural xs => xs

/-- Evaluates members that have to be keys. -/
def evaluateKeys : List Expr → Except LiteralFault Unit
  | [] => .ok ()
  | x :: xs => do
    (← x.evaluate).asKey
    evaluateKeys xs
termination_by structural xs => xs

/-- Evaluates entries, the key and the value before the key is put to use. -/
def evaluateEntries : List (Expr × Expr) → Except LiteralFault Unit
  | [] => .ok ()
  | (k, v) :: rest => do
    let key ← k.evaluate
    let _ ← v.evaluate
    key.asKey
    evaluateEntries rest
termination_by structural es => es

end

end Gabarit.Expression
