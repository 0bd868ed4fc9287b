import Gabarit.Error
import Gabarit.Template.FilterCall
import Gabarit.Value.Source

/-!
# Filters

* `Action`: a computation over the one-shot iterators, which can fail;
* `Action.items`: the items of a value, taken one by one;
* `Signature`: the parameters of a filter;
* `Signature.bind`: whether a list of arguments fits, as it is checked before a template is used;
* `Signature.call`: the same check when the filter is called;
* `Filter`: a filter with its signature, which some filters do not show;
* `isSlot`, `insertAt`: a value inserted into a list at a slot.
-/

namespace Gabarit

/-- A computation that takes items from one-shot iterators and can fail. -/
abbrev Action := EStateM Failure Cursors

/-- A computation on values as an action. -/
def Action.ofExcept {α : Type} (r : Except Fault α) : Action α :=
  match r with
  | .ok a => pure a
  | .error f => throw (.fault f)

/-- Takes the items of a source one by one and converts each, with more fuel than there are items. -/
def Action.collect {α : Type} (convert : Value → Except Fault α) : Nat → Source → Action (List α)
  | 0, _ => pure []
  | fuel + 1, source => do
    match ← Action.ofExcept (source.next (← get)) with
    | none => return []
    | some (x, rest, cursors) =>
      set cursors
      let a ← Action.ofExcept (convert x)
      return a :: (← Action.collect convert fuel rest)

/-- The items of a value, each converted. -/
def Action.items {α : Type} (convert : Value → Except Fault α) (v : Value) : Action (List α) := do
  let source ← Action.ofExcept v.source
  Action.collect convert (source.bound (← get) + 1) source

/-- A positional parameter. -/
structure Parameter where
  name : String
  optional : Bool := false
  deriving DecidableEq

/-- The parameters of a filter. -/
structure Signature where
  /-- The name of the function, for messages. -/
  function : String
  positional : List Parameter
  /-- Any number of further arguments is accepted. -/
  variadic : Bool := false
  /-- Parameters that calls would have to name. -/
  named : List String := []
  deriving DecidableEq

namespace Signature

/-- The parameters that a list of `count` arguments leaves without one. -/
def missing (s : Signature) (count : Nat) : List String :=
  ((s.positional.drop count).filter (!·.optional)).map (·.name)

/-- A call with `count` positional arguments fits the parameters. -/
def bind (s : Signature) (count : Nat) : Except BindFault Unit :=
  if s.positional.length < count ∧ !s.variadic then .error .tooMany
  else
    match s.missing count ++ s.named with
    | name :: _ => .error (.missing name)
    | [] => .ok ()

/-- What calling the filter with `count` positional arguments reports about their number. -/
def call (s : Signature) (count : Nat) : Except Fault Unit :=
  let most := s.positional.length
  if most < count ∧ !s.variadic then
    .error (.tooManyArguments s.function (s.positional.filter (!·.optional)).length most count)
  else if !(s.missing count).isEmpty then .error (.missingArguments s.function (s.missing count))
  else if !s.named.isEmpty then .error (.missingNamed s.function s.named)
  else .ok ()

end Signature

/-- A filter. Without a signature its calls are not checked beforehand. -/
structure Filter where
  signature : Option Signature
  apply : List Value → Action Value

namespace Filter

/-- Calls a filter; a number of arguments that does not fit is its own fault. -/
def call (f : Filter) (args : List Value) : Action Value :=
  match f.signature with
  | none => f.apply args
  | some s => do
    Action.ofExcept (s.call args.length)
    f.apply args

end Filter

/-- Lengths and indexes are below this number. -/
def lengthLimit : Nat := Nat.pow 2 63

/-- A slot can be asked for in a list of `n` elements: it is in the range of indexes, as are those of the
list itself. -/
def isSlot (slot : Int) (n : Nat) : Bool := -(lengthLimit : Int) ≤ slot && (slot < lengthLimit || slot ≤ n)

/-- Inserts a value before the element at a slot. A negative slot counts from the end, and one beyond
an end stands for that end. -/
def insertAt {α : Type} (slot : Int) (x : α) (xs : List α) : Except Fault (List α) :=
  if isSlot slot xs.length then
    let n := if slot < 0 then (slot + xs.length).toNat else slot.toNat
    .ok (xs.take n ++ x :: xs.drop n)
  else .error .lengthRange

end Gabarit
