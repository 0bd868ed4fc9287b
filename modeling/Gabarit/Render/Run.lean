import Gabarit.Render.Renderer
import Gabarit.Template.Program

/-!
# Running programs

The nodes are run in order. A block is the range of nodes between its opening node and the node that this
one names; after it the run goes on behind that node.

* `nodeAt?`: the node at an index, counted from the end when it is negative;
* `Renderer.each`: a loop;
* `Renderer.run`: a range of nodes;
* `Renderer.execute`: the text of a program with some data.

Jumps of programs whose blocks pair up go forward, so that the number of nodes is enough fuel for them.
-/

namespace Gabarit

/-- The node at an index; a negative one counts from the end. -/
def nodeAt? (nodes : Array Node) (index : Int) : Option Node :=
  (Value.place? nodes.size index).bind (nodes[·]?)

namespace Renderer

/-- Runs a body for each item, with as much fuel as there are items. A loop that still has items after
these is not followed any further. -/
def each (body : Render Unit) : Nat → Items → Render Unit
  | 0, items => do
    if (← items.next).isSome then throw (.fault .endless)
  | fuel + 1, items => do
    match ← items.next with
    | none => return
    | some (index, value, rest) =>
      Render.bindItem index value
      body
      each body fuel rest

/-- Runs a body for each item of a path, under a scope of its own. -/
def loop (path : FieldPath) (body : Render Unit) : Render Unit := do
  let v ← Render.resolve path
  let items ← Render.ofExcept (Items.ofValue path.expr v)
  Render.inScope (do each body (items.bound (← get).cursors) items)

/-- Runs the nodes from `pc` up to `stop`. Running out of fuel is a fault. -/
def run (r : Renderer) (nodes : Array Node) : Nat → Int → Int → Render Unit
  | 0, _, _ => throw (.fault .tooDeep)
  | fuel + 1, pc, stop =>
    if pc < stop then
      match nodeAt? nodes pc with
      | none => throw (.fault .indexRange)
      | some (.text s) => do
        Render.emit (.text s)
        run r nodes fuel (pc + 1) stop
      | some (.echo path filters escaped) => do
        Render.emit (← r.echo path filters escaped)
        run r nodes fuel (pc + 1) stop
      | some (.cond path close compares operand) => do
        if ← test path compares operand then run r nodes fuel (pc + 1) close
        run r nodes fuel (close + 1) stop
      | some (.loop path close) => do
        loop path (run r nodes fuel (pc + 1) close)
        run r nodes fuel (close + 1) stop
      | some (.close _) => run r nodes fuel (pc + 1) stop
    else return

/-- Fuel for a program; the surplus is for jumps backward, which run out of it. -/
def fuelFor (p : Program) : Nat := p.nodes.size + 1000

/-- Runs a program. -/
def runProgram (r : Renderer) (p : Program) : Render Unit :=
  r.run p.nodes (fuelFor p) 0 p.nodes.size

/-- The text of a program in a context, or the failure, with the context and the iterators as they are
left. -/
def execute (r : Renderer) (p : Program) (context : Context) (cursors : Cursors) :
    Except Failure Rendered × Context × Cursors :=
  match r.runProgram p { context, cursors } with
  | .ok () m => (.ok (.join m.written.reverse), m.context, m.cursors)
  | .error f m => (.error f, m.context, m.cursors)

/-- The text of a program with some data. -/
def render (r : Renderer) (p : Program) (data : Value) (cursors : Cursors) : Except Failure Rendered :=
  (r.execute p (.ofData data) cursors).1

end Renderer

end Gabarit
