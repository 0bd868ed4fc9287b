import Gabarit.Proofs.Block.Tree
import Gabarit.Proofs.Render.Rendered

/-!
# The meaning of trees

What a template writes, read off its nested blocks.

* `Context.within`: the context of a loop's body;
* `Value.members`: what a loop goes through, all at once if that is known;
* `Renderer.interpolation`, `Renderer.holds`: an interpolation and a condition;
* `Tree.write`: the text of a tree;
* `Tree.result`: the text or the failure, with the context and the iterators as they are left.
-/

namespace Gabarit

/-- The context of a loop's body: the key or position and the item, over what stands around. -/
def Context.within (c : Context) (index value : Value) : Context :=
  { c with scopes := [(Render.loopIndex, index), (Render.loopValue, value)] :: c.scopes }

/-- What a loop goes through. -/
inductive Members where
  /-- Keys and values, or positions and elements. -/
  | known (ms : List (Value × Value))
  /-- What is left of a one-shot iterator, as it is taken. -/
  | cursor (id : ℕ)

/-- Elements with their positions. -/
def numbered (xs : List Value) : List (Value × Value) :=
  xs.zipIdx.map fun (x, i) => (.int i, x)

/-- What a loop over a value goes through. -/
def Value.members (expr : String) : Value → Except Failure Members
  | .dict es | .defaulting es _ => .ok (.known es)
  | .list xs | .tuple xs | .set xs => .ok (.known (numbered xs))
  | .bytearray bs => .ok (.known (numbered (bs.map fun b => .int b.toNat)))
  | .range start stop step =>
    .ok (.known (numbered ((List.range (rangeLength start stop step)).map fun i : ℕ =>
      .int (start + i * step))))
  | .cursor id => .ok (.cursor id)
  | .keyed _ => .error (.fault (.noKey "0"))
  | v => .error (.error (.notIterable expr v.shortTypeName))

namespace Action

/-- A result as an action. -/
def ofResult {α : Type} : Except Failure α → Action α
  | .ok a => pure a
  | .error f => throw f

/-- An action whose failure is told otherwise. -/
def mapFailure {α : Type} (tell : Failure → Failure) (action : Action α) : Action α := fun cursors =>
  match action cursors with
  | .ok a cursors => .ok a cursors
  | .error f cursors => .error (tell f) cursors

/-- Two texts, one after the other. -/
def andThen (first second : Action Rendered) : Action Rendered := do
  let s ← first
  let t ← second
  return s ++ t

/-- The texts for all members, in order. -/
def forMembers (body : Value → Value → Action Rendered) : List (Value × Value) → Action Rendered
  | [] => pure (.text "")
  | (index, value) :: ms => (body index value).andThen (forMembers body ms)

/-- The texts for what is taken from a one-shot iterator while something is left of it; the first one has the
position `index`. More than `count` items have no end. -/
def forTaken (body : Value → Value → Action Rendered) (id : ℕ) : ℕ → ℕ → Action Rendered
  | 0, _ => do
    match (← get)[id]?.getD [] with
    | [] => return .text ""
    | _ :: xs =>
      modify fun cursors => cursors.set id xs
      throw (.fault .endless)
  | count + 1, index => do
    match (← get)[id]?.getD [] with
    | [] => return .text ""
    | x :: xs =>
      modify fun cursors => cursors.set id xs
      (body (.int index) x).andThen (forTaken body id count (index + 1))

/-- The texts for the items of a path. -/
def forItems (path : FieldPath) (c : Context) (body : Value → Value → Action Rendered) :
    Action Rendered := do
  let v ← ofResult (c.resolve path)
  match ← ofResult (v.members path.expr) with
  | .known ms => forMembers body ms
  | .cursor id => forTaken body id ((← get)[id]?.getD []).length 0

end Action

namespace Renderer

/-- What a filter makes of a value. -/
def filtered (r : Renderer) (v : Value) (call : FilterCall) : Action Value := do
  let f ← Action.ofResult (r.filters.get call.name)
  let args ← Action.ofResult ((insertAt call.slot v (call.args.map Scalar.toValue)).mapError .fault)
  (f.call args).mapFailure (Render.filterFailure call.name)

/-- The text of an interpolation: the value passes through the filters as they are written. -/
def interpolation (r : Renderer) (path : FieldPath) (calls : List FilterCall) (escape : Bool)
    (c : Context) : Action Rendered := do
  let v ← Action.ofResult (c.resolve path)
  let w ← calls.foldlM r.filtered v
  let s ← Action.ofResult ((r.toText w).mapError .fault)
  return if escape then r.escapeRendered s else s

/-- Whether a condition holds. -/
def holds (path : FieldPath) (compares : Bool) (operand : Scalar) (c : Context) : Action Bool := do
  let v ← Action.ofResult (c.resolve path)
  return if compares then v.equal operand.toValue else v.truthy

end Renderer

namespace Tree

/-- The text of a tree. -/
def write (r : Renderer) : Tree → Context → Action Rendered
  | done, _ => pure (.text "")
  | text s rest, c => Action.andThen (pure (.text s)) (rest.write r c)
  | echo path calls escape rest, c =>
    (r.interpolation path calls escape c).andThen (rest.write r c)
  | block (.cond path compares operand) body rest, c =>
    Action.andThen
      (do if ← Renderer.holds path compares operand c then body.write r c else pure (.text ""))
      (rest.write r c)
  | block (.loop path) body rest, c =>
    (Action.forItems path c fun index value => body.write r (c.within index value)).andThen
      (rest.write r c)

/-- The text of a tree in a context, or the failure, with the context and the iterators as they are
left. -/
def result (r : Renderer) (t : Tree) (c : Context) (cursors : Cursors) :
    Except Failure Rendered × Context × Cursors :=
  match t.write r c cursors with
  | .ok s cursors => (.ok s, c, cursors)
  | .error f cursors => (.error f, c, cursors)

end Tree

end Gabarit
