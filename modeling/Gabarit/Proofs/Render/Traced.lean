import Gabarit.Proofs.Render.Effects

/-!
# Traced runs

A run that notes which filters it calls, and with what.

* `Performed`: a call of a filter as it is performed;
* `Traced`: computations over the state of a rendering that note the calls they perform;
* `Renderer.executeTraced`: the result of a program, and the calls that are performed for it;
* `Traced.Follows`: a traced computation is another one with its notes, performs calls of a kind only, and
  fails with errors in a template only when a filter does;
* `Renderer.traceRun_follows`: a traced run follows the run;
* **`Renderer.executeTraced_follows`**: so does the execution of a program.
-/

namespace Gabarit

/-- A call of a filter as it is performed: what is piped into it, and what it is called with. -/
structure Performed where
  call : FilterCall
  filter : Filter
  piped : Value
  args : List Value

/-- The filter itself fails with these arguments. -/
def Performed.Raises (d : Performed) (f : Failure) : Prop :=
  ∃ cursors cursors', d.filter.apply d.args cursors = .error f cursors'

/-- A computation over the state of a rendering that notes the filter calls it performs. -/
abbrev Traced := EStateM Failure (Machine × List Performed)

namespace Traced

variable {α : Type}

/-- A computation that performs no calls. -/
def lift (x : Render α) : Traced α := fun s =>
  match x s.1 with
  | .ok a m => .ok a (m, s.2)
  | .error f m => .error f (m, s.2)

/-- Notes a call. -/
def note (d : Performed) : Traced Unit := modify fun s => (s.1, s.2 ++ [d])

/-- A computation under a scope of its own. -/
def inScope (body : Traced α) : Traced α := fun s =>
  match body ({ s.1 with context := s.1.context.push }, s.2) with
  | .ok a s' => .ok a (Render.closeScope s'.1, s'.2)
  | .error f s' => .error f (Render.closeScope s'.1, s'.2)

/-- Runs a body for each item, with as much fuel as there are items. -/
def each (body : Traced Unit) : ℕ → Items → Traced Unit
  | 0, items => do
    if (← lift items.next).isSome then throw (.fault .endless)
  | fuel + 1, items => do
    match ← lift items.next with
    | none => return
    | some (index, value, rest) =>
      lift (Render.bindItem index value)
      body
      each body fuel rest

/-- Runs a body for each item of a path, under a scope of its own. -/
def loop (path : FieldPath) (body : Traced Unit) : Traced Unit := do
  let v ← lift (Render.resolve path)
  let items ← lift (Render.ofExcept (Items.ofValue path.expr v))
  inScope (do each body (items.bound (← get).1.cursors) items)

end Traced

namespace Renderer

open Traced

/-- Passes a value through filters in order, and notes their calls. -/
def tracePipe (r : Renderer) : List FilterCall → Value → Traced Value
  | [], v => return v
  | call :: rest, v => do
    let f ← lift (Render.ofExcept (r.filters.get call.name))
    let args ← lift (Render.ofExcept ((insertAt call.slot v (call.args.map Scalar.toValue)).mapError .fault))
    note ⟨call, f, v, args⟩
    let w ← lift (Render.ofAction call.name (f.call args))
    tracePipe r rest w

/-- The text of an interpolation. -/
def traceEcho (r : Renderer) (path : FieldPath) (filters : List FilterCall) (escaped : Bool) :
    Traced Rendered := do
  let v ← lift (Render.resolve path)
  let w ← r.tracePipe filters v
  let text ← lift (Render.ofExcept ((r.toText w).mapError .fault))
  return if escaped then r.escapeRendered text else text

/-- Runs the nodes from `pc` up to `stop`. -/
def traceRun (r : Renderer) (nodes : Array Node) : ℕ → Int → Int → Traced Unit
  | 0, _, _ => throw (.fault .tooDeep)
  | fuel + 1, pc, stop =>
    if pc < stop then
      match nodeAt? nodes pc with
      | none => throw (.fault .indexRange)
      | some (.text s) => do
        lift (Render.emit (.text s))
        traceRun r nodes fuel (pc + 1) stop
      | some (.echo path filters escaped) => do
        let text ← r.traceEcho path filters escaped
        lift (Render.emit text)
        traceRun r nodes fuel (pc + 1) stop
      | some (.cond path close compares operand) => do
        if ← lift (test path compares operand) then traceRun r nodes fuel (pc + 1) close
        traceRun r nodes fuel (close + 1) stop
      | some (.loop path close) => do
        Traced.loop path (traceRun r nodes fuel (pc + 1) close)
        traceRun r nodes fuel (close + 1) stop
      | some (.close _) => traceRun r nodes fuel (pc + 1) stop
    else return

/-- The result of a program in a context, and the filter calls that are performed for it, in order. -/
def executeTraced (r : Renderer) (p : Program) (context : Context) (cursors : Cursors) :
    (Except Failure Rendered × Context × Cursors) × List Performed :=
  match r.traceRun p.nodes (fuelFor p) 0 p.nodes.size ({ context, cursors }, []) with
  | .ok () (m, calls) => ((.ok (.join m.written.reverse), m.context, m.cursors), calls)
  | .error f (m, calls) => ((.error f, m.context, m.cursors), calls)

end Renderer

/-! ## Computations with their notes -/

/-- The failure is no error in a template. -/
def Failure.Rendering (f : Failure) : Prop := ∀ e, f ≠ .error (.compile e)

theorem Failure.Rendering.fault (f : Fault) : Failure.Rendering (.fault f) := nofun

theorem Failure.Rendering.filterFailure (name : String) (f : Fault) :
    Failure.Rendering (Render.filterFailure name (.fault f)) := by
  intro e h
  rw [Render.filterFailure] at h
  split at h <;> cases h

variable {α β : Type} {P : Performed → Prop}

/-- A traced computation is another one with some notes: all calls that it performs have a property, and
if it fails with an error in a template, the filter of one of them fails so. -/
def Traced.Follows (P : Performed → Prop) (w : Traced α) (x : Render α) : Prop :=
  ∀ (m : Machine) (before : List Performed), ∃ calls, (∀ d ∈ calls, P d) ∧
    match x m with
    | .ok a m' => w (m, before) = .ok a (m', before ++ calls)
    | .error f m' => w (m, before) = .error f (m', before ++ calls) ∧
      (f.Rendering ∨ ∃ d ∈ calls, d.Raises f)

namespace Traced.Follows

theorem lift {x : Render α} (h : ∀ m, ∀ f ∈ failureOf (x m), f.Rendering) : Follows P (lift x) x := by
  intro m before
  refine ⟨[], nofun, ?_⟩
  have hm := h m
  unfold Traced.lift
  rw [List.append_nil]
  cases hx : x m with
  | ok a m' => rfl
  | error f m' =>
    rw [hx] at hm
    exact ⟨rfl, .inl (hm f rfl)⟩

theorem pure (a : α) : Follows P (Pure.pure a) (Pure.pure a) := by
  intro m before
  refine ⟨[], nofun, ?_⟩
  rw [List.append_nil]
  rfl

theorem throw {f : Failure} (h : f.Rendering) :
    Follows P (MonadExcept.throw f : Traced α) (MonadExcept.throw f) := by
  intro m before
  refine ⟨[], nofun, ?_⟩
  rw [List.append_nil]
  exact ⟨rfl, .inl h⟩

theorem bind {w : Traced α} {x : Render α} {f : α → Traced β} {g : α → Render β} (h : Follows P w x)
    (hf : ∀ a, Follows P (f a) (g a)) : Follows P (w >>= f) (x >>= g) := by
  intro m before
  obtain ⟨calls, hcalls, hm⟩ := h m before
  rw [EStateM.bind_apply, EStateM.bind_apply]
  cases hx : x m with
  | error e m' =>
    rw [hx] at hm
    obtain ⟨hw, he⟩ := hm
    rw [hw]
    exact ⟨calls, hcalls, rfl, he⟩
  | ok a m' =>
    rw [hx] at hm
    rw [hm]
    obtain ⟨more, hmore, ha⟩ := hf a m' (before ++ calls)
    refine ⟨calls ++ more, List.forall_mem_append.mpr ⟨hcalls, hmore⟩, ?_⟩
    dsimp only
    rw [← List.append_assoc]
    cases hg : g a m' with
    | ok b m'' =>
      rw [hg] at ha
      exact ha
    | error e m'' =>
      rw [hg] at ha
      refine ⟨ha.1, ha.2.imp_right ?_⟩
      rintro ⟨d, hd, hraises⟩
      exact ⟨d, List.mem_append_right _ hd, hraises⟩

theorem inScope {w : Traced α} {x : Render α} (h : Follows P w x) :
    Follows P (inScope w) (Render.inScope x) := by
  intro m before
  obtain ⟨calls, hcalls, hm⟩ := h { m with context := m.context.push } before
  refine ⟨calls, hcalls, ?_⟩
  unfold Traced.inScope Render.inScope
  cases hx : x { m with context := m.context.push } with
  | ok a m' =>
    rw [hx] at hm
    dsimp only
    rw [hm]
  | error e m' =>
    rw [hx] at hm
    dsimp only
    rw [hm.1]
    exact ⟨rfl, hm.2⟩

theorem get_bind {f : Machine → Traced β} {g : Machine → Render β} (h : ∀ m, Follows P (f m) (g m)) :
    Follows P (get >>= fun s => f s.1) (get >>= g) := fun m before => h m m before

theorem lift_obeys {x : Render α} (h : ∀ m, Obeys .any Failure.Rendering Machine.cursors x m) :
    Follows P (Traced.lift x) x := lift fun m => (h m).2

/-- Performing a call. -/
theorem perform {d : Performed} (hd : P d) (name : String) :
    Follows P (do
      note d
      Traced.lift (Render.ofAction name (d.filter.call d.args)))
      (Render.ofAction name (d.filter.call d.args)) := by
  intro m before
  refine ⟨[d], List.forall_mem_singleton.mpr hd, ?_⟩
  have hnoted : (do
      note d
      Traced.lift (Render.ofAction name (d.filter.call d.args))) (m, before) =
        Traced.lift (Render.ofAction name (d.filter.call d.args)) (m, before ++ [d]) := rfl
  rw [hnoted, Traced.lift]
  have hraises {e : Error} {cursors : Cursors}
      (h : d.filter.call d.args m.cursors = .error (.error e) cursors) : d.Raises (.error e) := by
    unfold Filter.call at h
    cases hsignature : d.filter.signature with
    | none =>
      rw [hsignature] at h
      exact ⟨_, _, h⟩
    | some s =>
      rw [hsignature] at h
      dsimp only at h
      cases hs : s.call d.args.length with
      | error g =>
        rw [hs] at h
        cases h
      | ok _ =>
        rw [hs] at h
        exact ⟨_, _, h⟩
  unfold Render.ofAction
  cases hcall : d.filter.call d.args m.cursors with
  | ok w cursors => rfl
  | error f cursors =>
    refine ⟨rfl, ?_⟩
    cases f with
    | fault g => exact .inl (.filterFailure name g)
    | error e => exact .inr ⟨d, List.mem_singleton_self d, hraises hcall⟩

theorem each {w : Traced Unit} {x : Render Unit} (h : Follows P w x) (fuel : ℕ) (items : Items) :
    Follows P (Traced.each w fuel items) (Renderer.each x fuel items) := by
  have hnext (items : Items) : Follows P (Traced.lift items.next) items.next :=
    lift_obeys fun m => Items.next_obeys fun _ f _ => Failure.Rendering.fault f
  induction fuel generalizing items with
  | zero =>
    refine (hnext items).bind fun next => ?_
    cases next with
    | none => exact .pure ()
    | some next => exact .throw (.fault _)
  | succ fuel ih =>
    refine (hnext items).bind fun next => ?_
    cases next with
    | none => exact .pure ()
    | some next =>
      obtain ⟨index, value, rest⟩ := next
      exact (lift_obeys fun m => Render.bindItem_obeys index value).bind fun _ => h.bind fun _ => ih rest

end Traced.Follows

namespace Renderer

open Traced

variable {r : Renderer}

theorem promises_rendering : ({ filters := .empty } : Renderer).Promises .any Failure.Rendering where
  undefined _ _ := nofun
  notIterable _ _ := nofun
  item _ _ _ := nofun
  endless := nofun
  text _ _ _ := nofun
  shape _ _ := nofun
  filters _ _ := nofun

theorem resolve_follows (path : FieldPath) : Follows P (lift (Render.resolve path)) (Render.resolve path) :=
  .lift_obeys fun _ => promises_rendering.resolve fun _ => .fault _

theorem loop_follows (path : FieldPath) {w : Traced Unit} {x : Render Unit} (h : Follows P w x) :
    Follows P (Traced.loop path w) (loop path x) := by
  refine (resolve_follows path).bind fun v => ?_
  refine (Follows.lift_obeys fun m => Render.ofExcept_obeys fun f hf => ?_).bind fun items => ?_
  · exact promises_rendering.ofValue hf
  · exact .inScope (.get_bind fun m => h.each _ items)

/-- The filters of the calls are there, and calls of them have a property. -/
def Calls (r : Renderer) (P : Performed → Prop) (calls : List FilterCall) : Prop :=
  ∀ c ∈ calls, ∃ f, r.filters.get c.name = .ok f ∧
    ∀ v args, insertAt c.slot v (c.args.map Scalar.toValue) = .ok args → P ⟨c, f, v, args⟩

theorem tracePipe_follows {calls : List FilterCall} (h : r.Calls P calls) (v : Value) :
    Follows P (r.tracePipe calls v) (r.pipe calls v) := by
  induction calls generalizing v with
  | nil => exact .pure v
  | cons call calls ih =>
    obtain ⟨⟨f, hf, hP⟩, hcalls⟩ := List.forall_mem_cons.mp h
    have htraced {α : Type} (a : α) : lift (Render.ofExcept (.ok a)) = (pure a : Traced α) := rfl
    have hrun {α : Type} (a : α) : Render.ofExcept (.ok a) = pure a := rfl
    rw [tracePipe, pipe, hf, htraced, hrun, pure_bind, pure_bind]
    cases hargs : insertAt call.slot v (call.args.map Scalar.toValue) with
    | error g => exact .throw (.fault g)
    | ok args =>
      rw [Except.mapError, htraced, hrun, pure_bind, pure_bind, ← bind_assoc]
      exact (Follows.perform (d := ⟨call, f, v, args⟩) (hP v args hargs) call.name).bind fun w => ih hcalls w

theorem traceEcho_follows {calls : List FilterCall} (h : r.Calls P calls) (path : FieldPath)
    (escaped : Bool) : Follows P (r.traceEcho path calls escaped) (r.echo path calls escaped) := by
  refine (resolve_follows path).bind fun v => (tracePipe_follows h v).bind fun w => ?_
  refine (Follows.lift_obeys fun m => Render.ofExcept_obeys fun f hf => ?_).bind fun text => .pure _
  cases htext : r.toText w with
  | ok s =>
    rw [htext] at hf
    cases hf
  | error g =>
    rw [htext] at hf
    cases hf
    exact nofun

/-- **A traced run follows the run.** -/
theorem traceRun_follows {nodes : Array Node} (h : ∀ node ∈ nodes, r.Calls P (Engine.callsOf node))
    (fuel : ℕ) (pc stop : Int) : Follows P (r.traceRun nodes fuel pc stop) (r.run nodes fuel pc stop) := by
  induction fuel generalizing pc stop with
  | zero => exact .throw (.fault _)
  | succ fuel ih =>
    rw [traceRun, run]
    split_ifs
    · cases hnode : nodeAt? nodes pc with
      | none => exact .throw (.fault _)
      | some node =>
        have hcalls := h node (mem_of_nodeAt? hnode)
        cases node with
        | text s => exact (Follows.lift_obeys fun m => Render.emit_obeys (.text s)).bind fun _ => ih _ _
        | echo path filters escaped =>
          refine (traceEcho_follows hcalls path escaped).bind fun text => ?_
          exact (Follows.lift_obeys fun m => Render.emit_obeys text).bind fun _ => ih _ _
        | cond path close compares operand =>
          refine (Follows.lift_obeys fun m => ?_).bind fun holds => ?_
          · exact promises_rendering.test (fun _ => .fault _) compares operand
          · cases holds with
            | true => exact (ih _ _).bind fun _ => ih _ _
            | false => exact ih _ _
        | loop path close => exact (loop_follows path (ih _ _)).bind fun _ => ih _ _
        | close opener => exact ih _ _
    · exact .pure ()

/-- **The traced execution of a program has its result.** The filter calls that are performed for it are
those of its nodes, and if it fails with an error in a template, the filter of one of them fails so. -/
theorem executeTraced_follows {p : Program} (h : ∀ node ∈ p.nodes, r.Calls P (Engine.callsOf node))
    (c : Context) (cursors : Cursors) : (r.executeTraced p c cursors).1 = r.execute p c cursors ∧
      (∀ d ∈ (r.executeTraced p c cursors).2, P d) ∧
      ∀ e, (r.execute p c cursors).1 = .error (.error (.compile e)) →
        ∃ d ∈ (r.executeTraced p c cursors).2, d.Raises (.error (.compile e)) := by
  obtain ⟨calls, hcalls, hrun⟩ := traceRun_follows h (fuelFor p) 0 p.nodes.size { context := c, cursors } []
  rw [List.nil_append] at hrun
  unfold executeTraced execute runProgram
  cases hresult : r.run p.nodes (fuelFor p) 0 p.nodes.size { context := c, cursors } with
  | ok _ m =>
    rw [hresult] at hrun
    dsimp only at hrun
    rw [hrun]
    exact ⟨rfl, hcalls, nofun⟩
  | error f m =>
    rw [hresult] at hrun
    dsimp only at hrun
    rw [hrun.1]
    refine ⟨rfl, hcalls, fun e he => ?_⟩
    cases he
    exact hrun.2.resolve_left fun hrendering => hrendering e rfl

end Renderer

end Gabarit
