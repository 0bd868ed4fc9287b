import Gabarit.Proofs.Outcome
import Gabarit.Render.Run

/-!
# Watched runs

A run that notes what it does: where it reads nodes, and which runs it starts for the bodies of blocks.

* `Call`: a run of a range of nodes with its notes;
* `Watched`: computations over the state of a rendering that note what they do;
* `Renderer.watch`: the watched run of a range of nodes;
* `Watched.Erases`: a watched computation is another one, apart from its notes;
* **`Renderer.watch_erases`**: without its notes, a watched run is the run of the same nodes.
-/

namespace Gabarit

/-- A run of the nodes from `start` up to `stop`: the indexes at which it reads nodes, and the runs of the
bodies of blocks that it starts, both in their order. -/
structure Call where
  start : Int
  stop : Int
  visited : List Int := []
  calls : List Call := []
  /-- The fuel ran out. -/
  starved : Bool := false
  /-- After as many items as there were at first, a loop had one left. -/
  cut : Bool := false

namespace Call

/-- Notes that the node at an index is read. -/
def visit (pc : Int) (c : Call) : Call := { c with visited := c.visited ++ [pc] }

/-- Notes another run. -/
def add (c b : Call) : Call := { c with calls := c.calls ++ [b] }

/-- Notes that the fuel ran out. -/
def starve (c : Call) : Call := { c with starved := true }

/-- Notes that a loop has items left. -/
def cutShort (c : Call) : Call := { c with cut := true }

end Call

/-- A computation over the state of a rendering that makes notes in a run. -/
abbrev Watched := EStateM Failure (Machine × Call)

/-- An outcome without the notes. -/
def forget {α : Type} : EStateM.Result Failure (Machine × Call) α → EStateM.Result Failure Machine α
  | .ok a s => .ok a s.1
  | .error f s => .error f s.1

namespace Watched

variable {α β : Type}

/-- A computation that makes no notes. -/
def lift (x : Render α) : Watched α := fun s =>
  match x s.1 with
  | .ok a m => .ok a (m, s.2)
  | .error f m => .error f (m, s.2)

/-- Makes a note. -/
def note (change : Call → Call) : Watched Unit := modify fun s => (s.1, change s.2)

/-- A run of the nodes from `start` up to `stop`, which is noted even if it fails. -/
def calling (start stop : Int) (body : Watched Unit) : Watched Unit := fun s =>
  match body (s.1, { start, stop }) with
  | .ok () s' => .ok () (s'.1, s.2.add s'.2)
  | .error f s' => .error f (s'.1, s.2.add s'.2)

/-- A computation under a scope of its own. -/
def inScope (body : Watched α) : Watched α := fun s =>
  match body ({ s.1 with context := s.1.context.push }, s.2) with
  | .ok a s' => .ok a (Render.closeScope s'.1, s'.2)
  | .error f s' => .error f (Render.closeScope s'.1, s'.2)

end Watched

/-- An item is left, or the next one cannot be read. -/
def Items.areLeft (items : Items) (m : Machine) : Bool :=
  match items.next m with
  | .ok none _ => false
  | _ => true

namespace Watched

/-- Notes it if items are left. -/
def noteLeft (items : Items) : Watched Unit :=
  modify fun s => (s.1, if items.areLeft s.1 then s.2.cutShort else s.2)

/-- Runs a body for each item, with as much fuel as there are items. -/
def each (body : Watched Unit) : Nat → Items → Watched Unit
  | 0, items => do
    noteLeft items
    if (← lift items.next).isSome then throw (.fault .endless)
  | fuel + 1, items => do
    match ← lift items.next with
    | none => return
    | some (index, value, rest) =>
      lift (Render.bindItem index value)
      body
      each body fuel rest

/-- Runs a body for each item of a path, under a scope of its own. -/
def loop (path : FieldPath) (body : Watched Unit) : Watched Unit := do
  let v ← lift (Render.resolve path)
  let items ← lift (Render.ofExcept (Items.ofValue path.expr v))
  inScope (do each body (items.bound (← get).1.cursors) items)

end Watched

open Watched in
/-- Runs the nodes from `pc` up to `stop` and notes it. -/
def Renderer.watch (r : Renderer) (nodes : Array Node) : Nat → Int → Int → Watched Unit
  | 0, _, _ => do
    note Call.starve
    throw (.fault .tooDeep)
  | fuel + 1, pc, stop =>
    if pc < stop then do
      note (Call.visit pc)
      match nodeAt? nodes pc with
      | none => throw (.fault .indexRange)
      | some (.text s) =>
        lift (Render.emit (.text s))
        watch r nodes fuel (pc + 1) stop
      | some (.echo path filters escaped) =>
        let text ← lift (r.echo path filters escaped)
        lift (Render.emit text)
        watch r nodes fuel (pc + 1) stop
      | some (.cond path close compares operand) =>
        if ← lift (test path compares operand) then
          calling (pc + 1) close (watch r nodes fuel (pc + 1) close)
        watch r nodes fuel (close + 1) stop
      | some (.loop path close) =>
        Watched.loop path (calling (pc + 1) close (watch r nodes fuel (pc + 1) close))
        watch r nodes fuel (close + 1) stop
      | some (.close _) => watch r nodes fuel (pc + 1) stop
    else return

/-! ## Without the notes -/

namespace Watched

variable {α β : Type} {w : Watched α} {x : Render α}

/-- A watched computation is another one, apart from its notes. -/
def Erases (w : Watched α) (x : Render α) : Prop := ∀ s, forget (w s) = x s.1

namespace Erases

theorem lift (x : Render α) : Erases (Watched.lift x) x := by
  intro s
  unfold Watched.lift
  cases x s.1 <;> rfl

theorem pure (a : α) : Erases (Pure.pure a) (Pure.pure a) := fun _ => rfl

theorem throw (f : Failure) : Erases (MonadExcept.throw f : Watched α) (MonadExcept.throw f) := fun _ => rfl

theorem bind (h : Erases w x) {g : α → Watched β} {f : α → Render β} (hg : ∀ a, Erases (g a) (f a)) :
    Erases (w >>= g) (x >>= f) := by
  intro s
  have hs := h s
  rw [EStateM.bind_apply, EStateM.bind_apply, ← hs]
  cases w s with
  | ok a s' => exact hg a s'
  | error e s' => rfl

theorem noted (h : Erases w x) (change : Call → Call) : Erases (note change >>= fun _ => w) x :=
  fun s => h (s.1, change s.2)

theorem calling {w : Watched Unit} {x : Render Unit} (h : Erases w x) (start stop : Int) :
    Erases (Watched.calling start stop w) x := by
  intro s
  rw [← h (s.1, { start, stop })]
  unfold Watched.calling
  cases w (s.1, { start, stop }) <;> rfl

theorem inScope (h : Erases w x) : Erases (Watched.inScope w) (Render.inScope x) := by
  intro s
  unfold Watched.inScope Render.inScope
  rw [← h ({ s.1 with context := s.1.context.push }, s.2)]
  cases w ({ s.1 with context := s.1.context.push }, s.2) <;> rfl

theorem each {body : Watched Unit} {x : Render Unit} (h : Erases body x) (fuel : ℕ) (items : Items) :
    Erases (Watched.each body fuel items) (Renderer.each x fuel items) := by
  induction fuel generalizing items with
  | zero =>
    refine fun s => Erases.bind (.lift items.next) (fun next => ?_)
      (s.1, if items.areLeft s.1 then s.2.cutShort else s.2)
    cases next with
    | none => exact .pure ()
    | some next => exact .throw _
  | succ fuel ih =>
    refine .bind (.lift _) fun next => ?_
    cases next with
    | none => exact .pure ()
    | some next =>
      obtain ⟨index, value, rest⟩ := next
      exact .bind (.lift _) fun _ => .bind h fun _ => ih rest

theorem loop {body : Watched Unit} {x : Render Unit} (h : Erases body x) (path : FieldPath) :
    Erases (Watched.loop path body) (Renderer.loop path x) := by
  refine .bind (.lift _) fun v => .bind (.lift _) fun items => .inScope fun s => ?_
  exact each h (items.bound s.1.cursors) items s

end Erases

end Watched

/-- **Without its notes, a watched run is the run of the same nodes.** -/
theorem Renderer.watch_erases (r : Renderer) (nodes : Array Node) (fuel : ℕ) (pc stop : Int) :
    Watched.Erases (r.watch nodes fuel pc stop) (r.run nodes fuel pc stop) := by
  induction fuel generalizing pc stop with
  | zero => exact .noted (.throw _) _
  | succ fuel ih =>
    rw [watch, run]
    split_ifs with hlt
    · refine .noted ?_ _
      cases nodeAt? nodes pc with
      | none => exact .throw _
      | some node =>
        cases node with
        | text s => exact .bind (.lift _) fun _ => ih _ _
        | echo path filters escaped =>
          exact .bind (.lift _) fun text => .bind (.lift _) fun _ => ih _ _
        | cond path close compares operand =>
          refine .bind (.lift _) fun holds => ?_
          cases holds with
          | true => exact .bind (.calling (ih _ _) _ _) fun _ => ih _ _
          | false => exact ih _ _
        | loop path close => exact .bind (.loop (.calling (ih _ _) _ _) path) fun _ => ih _ _
        | close opener => exact ih _ _
    · exact .pure ()

end Gabarit
