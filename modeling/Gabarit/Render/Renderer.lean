import Gabarit.Charset.Basic
import Gabarit.Filter.Registry
import Gabarit.Render.Context
import Gabarit.Text.Markup

/-!
# Renderers

* `Rendered`: what a rendering writes;
* `Renderer`: filters, charset and quotes of a rendering;
* `Renderer.toText`, `Renderer.escape`: how values are written;
* `Machine`, `Render`: the state of a rendering, and computations over it;
* `Render.inScope`: a computation under a scope of its own, which is closed even after a failure;
* `Items`: what a loop goes through;
* `Renderer.echo`: the text of an interpolation.
-/

namespace Gabarit

/-- What a rendering writes: a text, in which there may be surrogates. -/
inductive Rendered where
  | text (s : String)
  | broken (t : Text.Broken)
  deriving DecidableEq

namespace Rendered

/-- The text that code points spell. -/
def ofPoints (ps : List Text.Point) : Rendered := (Text.ofPoints ps).elim .text .broken

/-- The code points of the text. -/
def points : Rendered → List Text.Point
  | .text s => Text.points (.inl s)
  | .broken t => t.1

/-- The pieces of a text joined. -/
def join (pieces : List Rendered) : Rendered := ofPoints (pieces.flatMap points)

end Rendered

/-- How a program is rendered. -/
structure Renderer where
  filters : Registry
  charset : String := "UTF-8"
  quotes : QuotePolicy := .all

namespace Renderer

/-- Bytes as text. No bytes are no text in any charset, known or not. -/
def decodeText (charset : String) (bs : List UInt8) : Except Fault String :=
  if bs.isEmpty then .ok ""
  else match Charset.ofName? charset with
    | some c => (c.decode bs).map String.ofList
    | none => .error (.unknownCharset charset)

/-- A value as it is written: nothing is empty, and bytes are decoded. -/
def toText (r : Renderer) : Value → Except Fault Rendered
  | .none => .ok (.text "")
  | .bool b => .ok (.text (if b then "true" else "false"))
  | .bytes bs | .bytearray bs => (decodeText r.charset bs).map .text
  | .broken t => .ok (.broken t)
  | v => v.text.map .text

/-- A text as it is written in HTML: it is escaped, and then the quotes that may stand are restored. -/
def escape (r : Renderer) (s : String) : String :=
  String.ofList (Text.restoreQuotes r.quotes (Text.escapeMarkup s.toList))

/-- A code point as it is written in HTML: surrogates stay as they are. -/
def escapePoint (r : Renderer) : Text.Point → List Text.Point
  | .char c => Text.points (.inl (r.escape (String.singleton c)))
  | p => [p]

/-- What is written in HTML for a text. -/
def escapeRendered (r : Renderer) : Rendered → Rendered
  | .text s => .text (r.escape s)
  | .broken t => .ofPoints (t.1.flatMap r.escapePoint)

end Renderer

/-- The state of a rendering: the context, the one-shot iterators in its data, and the pieces written so
far, the last one first. -/
structure Machine where
  context : Context
  cursors : Cursors
  written : List Rendered := []

/-- A computation over the state of a rendering, which can fail. -/
abbrev Render := EStateM Failure Machine

namespace Render

/-- A computation without effects. -/
def ofExcept {α : Type} (r : Except Failure α) : Render α :=
  match r with
  | .ok a => pure a
  | .error f => throw f

/-- Writes a piece. -/
def emit (s : Rendered) : Render Unit := modify fun m => { m with written := s :: m.written }

/-- The value of a path. -/
def resolve (path : FieldPath) : Render Value := do ofExcept ((← get).context.resolve path)

/-- What a filter's failure is to the rendering: a fault becomes an error that names the filter, and the
engine's own errors stay as they are. What is left open stays so. -/
def filterFailure (name : String) : Failure → Failure
  | .error e => .error e
  | .fault f => if f.isOpen then .fault f else .error (.filter name f.message)

/-- Runs a filter on the iterators of the state. -/
def ofAction {α : Type} (name : String) (action : Action α) : Render α := fun m =>
  match action m.cursors with
  | .ok a cursors => .ok a { m with cursors }
  | .error f cursors => .error (filterFailure name f) { m with cursors }

/-- Closes the newest scope. -/
def closeScope (m : Machine) : Machine := { m with context := m.context.pop }

/-- A computation under a scope of its own, which is closed even after a failure. -/
def inScope {α : Type} (body : Render α) : Render α := fun m =>
  match body { m with context := m.context.push } with
  | .ok a m => .ok a (closeScope m)
  | .error f m => .error f (closeScope m)

/-- The name of the position in a loop. -/
def loopIndex : String := "loop_index"

/-- The name of the item in a loop. -/
def loopValue : String := "loop_value"

/-- Binds the position and the item of a loop in the newest scope. -/
def bindItem (index value : Value) : Render Unit :=
  modify fun m =>
    { m with context := (m.context.bind loopIndex index).bind loopValue value }

end Render

/-- What a loop goes through. -/
inductive Items where
  /-- The entries of a mapping, by their keys. -/
  | entries (es : List (Value × Value))
  /-- Other items, by their positions from `index` on. -/
  | numbered (index : Nat) (source : Source)

namespace Items

/-- The items of a value. Texts and bytes are not taken apart. -/
def ofValue (expr : String) (v : Value) : Except Failure Items :=
  let refused : Except Failure Items := .error (.error (.notIterable expr v.shortTypeName))
  match v with
  | .dict es | .defaulting es _ => .ok (.entries es)
  | .str _ | .broken _ | .bytes _ => refused
  | v =>
    match v.source with
    | .ok source => .ok (.numbered 0 source)
    | .error _ => refused

/-- The number of items that can be taken. -/
def bound (cursors : Cursors) : Items → Nat
  | .entries es => es.length
  | .numbered _ source => source.bound cursors

/-- Takes the next item with its key or position. -/
def next : Items → Render (Option (Value × Value × Items))
  | .entries [] => return none
  | .entries ((k, v) :: rest) => return some (k, v, .entries rest)
  | .numbered index source => do
    match source.next (← get).cursors with
    | .error f => throw (.fault f)
    | .ok none => return none
    | .ok (some (v, rest, cursors)) =>
      modify fun m => { m with cursors }
      return some (.int index, v, .numbered (index + 1) rest)

end Items

namespace Renderer

/-- Passes a value through filters in order. -/
def pipe (r : Renderer) : List FilterCall → Value → Render Value
  | [], v => return v
  | call :: rest, v => do
    let f ← Render.ofExcept (r.filters.get call.name)
    let args ← Render.ofExcept ((insertAt call.slot v (call.args.map Scalar.toValue)).mapError .fault)
    let w ← Render.ofAction call.name (f.call args)
    pipe r rest w

/-- The text of an interpolation. -/
def echo (r : Renderer) (path : FieldPath) (filters : List FilterCall) (escaped : Bool) :
    Render Rendered := do
  let v ← Render.resolve path
  let w ← r.pipe filters v
  let text ← Render.ofExcept ((r.toText w).mapError .fault)
  return if escaped then r.escapeRendered text else text

/-- Whether a condition holds. -/
def test (path : FieldPath) (compares : Bool) (operand : Scalar) : Render Bool := do
  let v ← Render.resolve path
  return if compares then v.equal operand.toValue else v.truthy

end Renderer

end Gabarit
