import Gabarit.Error
import Gabarit.Expression.Literal

/-!
# Filter calls

A stage of a pipeline is the name of a filter, `upper`, or a call with literals, `truncate(20)`. The piped
value goes where the call has a placeholder, `date('%Y', %s)`, and after the other arguments where it has
none.

* `FilterCall`: a filter with its literals and the slot of the piped value;
* `keywordLiteral?`: the words that are literals;
* `Scalar.parse`: reading a literal;
* `FilterCall.parse`: reading a stage.
-/

namespace Gabarit

/-- A call of a filter. The piped value is inserted before the argument at `slot`. -/
structure FilterCall where
  name : String
  args : List Scalar
  slot : Int
  deriving DecidableEq

/-- The words that are literals, beside those of expressions. -/
def keywordLiteral? (s : String) : Option Scalar :=
  [("true", .bool true), ("false", .bool false), ("null", .null), ("True", .bool true),
    ("False", .bool false), ("None", .null)].lookup s

/-- Reads the literal on the right of a comparison. -/
def Scalar.parse (s : String) : Except Failure Scalar :=
  let cs := Text.trim s.toList
  let text := String.ofList cs
  let refuse : Except Failure Scalar := .error (.tag text .expectedLiteral)
  match keywordLiteral? text with
  | some v => .ok v
  | none =>
    if cs.contains '\x00' then refuse
    else
      match Expression.parse cs with
      | none => refuse
      | some e =>
        match e.evaluate with
        | .ok (.scalar v) => .ok v
        | .ok _ => refuse
        | .error .notLiteral => refuse
        | .error fault => .error (.fault fault.toFault)

namespace FilterCall

open Expression

/-- The name that stands for the placeholder while a stage is read. -/
def placeholderName : String := "__stencil_value__"

/-- The number of placeholders. -/
def countPlaceholders : List Char → Nat
  | '%' :: 's' :: rest => countPlaceholders rest + 1
  | _ :: rest => countPlaceholders rest
  | [] => 0

/-- Puts the name of the placeholder in its place. -/
def namePlaceholders : List Char → List Char
  | '%' :: 's' :: rest => placeholderName.toList ++ namePlaceholders rest
  | c :: rest => c :: namePlaceholders rest
  | [] => []

/-- The literal that an argument is. -/
def argument (segment : String) (e : Expr) : Except Failure Scalar :=
  let evaluated : Except Failure Scalar :=
    match e.evaluate with
    | .ok (.scalar v) => .ok v
    | .ok _ => .error (.tag segment .argumentNotLiteral)
    | .error .notLiteral => .error (.tag segment .argumentNotLiteral)
    | .error fault => .error (.fault fault.toFault)
  match e with
  | .name s => ((keywordLiteral? s).map .ok).getD evaluated
  | _ => evaluated

/-- The literals among the arguments, with the place of the placeholder, after `args`. -/
def arguments (segment : String) (args : List Scalar) (slot : Option Nat) :
    List Expr → Except Failure (List Scalar × Option Nat)
  | [] => .ok (args, slot)
  | e :: rest =>
    match e with
    | .name s =>
      if s = placeholderName then arguments segment args (some args.length) rest
      else do arguments segment (args ++ [← argument segment e]) slot rest
    | e => do arguments segment (args ++ [← argument segment e]) slot rest

/-- The call that an expression is. -/
def ofExpr (segment : String) (placeholders : Nat) (e : Expr) : Except Failure FilterCall :=
  match e with
  | .name s =>
    if s = placeholderName then .error (.tag segment .invalidFilter) else .ok ⟨s, [], 0⟩
  | .call (.name f) es false =>
    if f = placeholderName then .error (.tag segment .invalidFilter)
    else do
      let (args, slot) ← arguments segment [] none es
      if placeholders ≠ 0 ∧ slot.isNone then .error (.tag segment .quotedPlaceholder)
      else return ⟨f, args, slot.getD args.length⟩
  | _ => .error (.tag segment .invalidFilter)

/-- Reads a stage of a pipeline. -/
def parse (s : String) : Except Failure FilterCall :=
  let cs := Text.trim s.toList
  let segment := String.ofList cs
  let placeholders := countPlaceholders cs
  if 1 < placeholders then .error (.tag segment .manyPlaceholders)
  else
    let source := namePlaceholders cs
    if source.contains '\x00' then .error (.fault .nulInSource)
    else
      match Expression.parse source with
      | none => .error (.tag segment .invalidFilter)
      | some e => ofExpr segment placeholders e

end FilterCall

end Gabarit
