import Gabarit.Proofs.Render.Steady

/-!
# Shared contexts

Loops close the scopes that they open, whatever happens in them, so that a context can be shared.

* `Render.Restores`: a part of a run leaves the context as it was, also when it fails;
* `Renderer.run_restores`: all runs do;
* `inTurn`: renderings one after another, each in the context that the one before leaves;
* `eachFrom`: the same, each in the context as it was at the start;
* **`execute_keeps_context`**: a rendering has no part in the next one that shares its context.
-/

namespace Gabarit

namespace Render

variable {α β : Type}

/-- A part of a run leaves the context as it was, also when it fails. -/
def Restores (x : Render α) : Prop := ∀ m, (stateAfter (x m)).context = m.context

namespace Restores

theorem pure (a : α) : Restores (Pure.pure a) := fun _ => rfl

theorem throw (f : Failure) : Restores (MonadExcept.throw f : Render α) := fun _ => rfl

theorem of_gives {x : Render α} {a : Machine → Action α} (h : ∀ m, Gives (a m) x m) : Restores x := by
  intro m
  rw [h m]
  cases a m m.cursors <;> rfl

theorem bind {x : Render α} {f : α → Render β} (hx : Restores x) (hf : ∀ a, Restores (f a)) :
    Restores (x >>= f) := fun m =>
  stateAfter_bind (P := fun m' => m'.context = m.context) (hx m) fun a m' _ hm' => (hf a m').trans hm'

theorem emit (s : Rendered) : Restores (emit s) := fun _ => rfl

theorem next (items : Items) : Restores items.next := by
  intro m
  cases items with
  | entries es => cases es <;> rfl
  | numbered index source =>
    rw [Items.next, EStateM.bind_apply, EStateM.get_apply]
    dsimp only
    cases source.next m.cursors with
    | error f => rfl
    | ok next => cases next <;> rfl

theorem inScope {body : Render α}
    (h : ∀ m : Machine, m.context.Inner (stateAfter (body { m with context := m.context.push })).context) :
    Restores (inScope body) := by
  intro m
  have hinner := h m
  unfold Render.inScope
  generalize body { m with context := m.context.push } = result at hinner
  cases result <;> exact hinner.pop

end Restores

end Render

namespace Renderer

open Render

theorem each_inner {c : Context} {body : Render Unit} (hb : Restores body) (fuel : ℕ) (items : Items)
    {m : Machine} (hm : c.Inner m.context) : c.Inner (stateAfter (each body fuel items m)).context := by
  induction fuel generalizing items m with
  | zero =>
    refine stateAfter_bind (P := fun m' : Machine => c.Inner m'.context) ?_ fun next m₁ _ hm₁ => ?_
    · exact (Restores.next items m).symm ▸ hm
    · split <;> exact hm₁
  | succ fuel ih =>
    refine stateAfter_bind (P := fun m' : Machine => c.Inner m'.context) ?_ fun next m₁ _ hm₁ => ?_
    · exact (Restores.next items m).symm ▸ hm
    cases next with
    | none => exact hm₁
    | some next =>
      obtain ⟨index, value, rest⟩ := next
      refine stateAfter_bind (P := fun m' : Machine => c.Inner m'.context) ?_ fun _ m₂ _ hm₂ => ?_
      · exact .inr ⟨index, value, hm₁.bind index value⟩
      refine stateAfter_bind (P := fun m' : Machine => c.Inner m'.context) ?_ fun _ m₃ _ hm₃ => ih rest hm₃
      exact (hb m₂).symm ▸ hm₂

theorem loop_restores (path : FieldPath) {body : Render Unit} (hb : Restores body) :
    Restores (loop path body) := by
  refine (Restores.of_gives (Gives.resolve path)).bind fun v => ?_
  refine (Restores.of_gives fun m => Gives.ofExcept _ m).bind fun items => .inScope fun m => ?_
  exact each_inner hb _ items (.inl rfl)

/-- **A run leaves the context as it was, also when it fails.** -/
theorem run_restores (r : Renderer) (nodes : Array Node) (fuel : ℕ) (pc stop : Int) :
    Restores (r.run nodes fuel pc stop) := by
  induction fuel generalizing pc stop with
  | zero => exact .throw _
  | succ fuel ih =>
    rw [run]
    split_ifs
    · cases nodeAt? nodes pc with
      | none => exact .throw _
      | some node =>
        cases node with
        | text s => exact (Restores.emit (.text s)).bind fun _ => ih _ _
        | echo path filters escaped =>
          have hecho := Restores.of_gives (gives_echo r path filters escaped)
          exact hecho.bind fun text => (Restores.emit text).bind fun _ => ih _ _
        | cond path close compares operand =>
          refine (Restores.of_gives (gives_test path compares operand)).bind fun holds => ?_
          cases holds with
          | true => exact (ih _ _).bind fun _ => ih _ _
          | false => exact ih _ _
        | loop path close => exact (loop_restores path (ih _ _)).bind fun _ => ih _ _
        | close opener => exact ih _ _
    · exact .pure ()

theorem execute_context (r : Renderer) (p : Program) (c : Context) (cursors : Cursors) :
    (r.execute p c cursors).2.1 = c := by
  have hrun := r.run_restores p.nodes (fuelFor p) 0 p.nodes.size { context := c, cursors }
  unfold execute runProgram
  generalize r.run p.nodes (fuelFor p) 0 p.nodes.size { context := c, cursors } = result at hrun
  cases result <;> exact hrun

end Renderer

/-! ## One rendering after another -/

/-- The results of renderings, each in the context and with the iterators that the one before leaves. -/
def inTurn : List (Renderer × Program) → Context → Cursors → List (Except Failure Rendered)
  | [], _, _ => []
  | (r, p) :: rest, c, cursors =>
    let (result, c', cursors') := r.execute p c cursors
    result :: inTurn rest c' cursors'

/-- The results of renderings, each in the context as it was at the start, with the iterators that the one
before leaves. -/
def eachFrom (c : Context) : List (Renderer × Program) → Cursors → List (Except Failure Rendered)
  | [], _ => []
  | (r, p) :: rest, cursors =>
    let (result, _, cursors') := r.execute p c cursors
    result :: eachFrom c rest cursors'

theorem inTurn_eq_eachFrom (ps : List (Renderer × Program)) (c : Context) (cursors : Cursors) :
    inTurn ps c cursors = eachFrom c ps cursors := by
  induction ps generalizing cursors with
  | nil => rfl
  | cons x ps ih =>
    obtain ⟨r, p⟩ := x
    have hc := r.execute_context p c cursors
    rw [inTurn, eachFrom]
    generalize r.execute p c cursors = result at hc
    obtain ⟨text, _, cursors'⟩ := result
    obtain rfl := hc
    exact congrArg (text :: ·) (ih cursors')

theorem eachFrom_eq_map {ps : List (Renderer × Program)} (hps : ∀ x ∈ ps, x.1.Steady) {c : Context}
    (hc : c.Lasting) (cursors start : Cursors) :
    eachFrom c ps cursors = ps.map fun x => (x.1.execute x.2 c start).1 := by
  induction ps generalizing cursors with
  | nil => rfl
  | cons x ps ih =>
    obtain ⟨hx, hps⟩ := List.forall_mem_cons.mp hps
    rw [eachFrom, List.map_cons, ← ih hps (x.1.execute x.2 c cursors).2.2,
      ← x.1.execute_steady hx x.2 hc cursors start]

/-- **A rendering leaves its context as it was, whether it succeeds or fails.** So renderings that share a
context go like renderings that have it to themselves, apart from the one-shot iterators that they take
from; and if there are none and the filters are steady, each has the result that it has alone. -/
theorem execute_keeps_context :
    (∀ (r : Renderer) (p : Program) (c : Context) (cursors : Cursors), (r.execute p c cursors).2.1 = c) ∧
    (∀ (ps : List (Renderer × Program)) (c : Context) (cursors : Cursors),
      inTurn ps c cursors = eachFrom c ps cursors) ∧
    (∀ (ps : List (Renderer × Program)) (c : Context) (cursors : Cursors),
      (∀ x ∈ ps, x.1.Steady) → c.Lasting →
        inTurn ps c cursors = ps.map fun x => (x.1.execute x.2 c cursors).1) ∧
    (∀ (ps : List (Renderer × Program)) (data : Value) (cursors : Cursors),
      (∀ x ∈ ps, x.1.Steady) → data.Lasting →
        eachFrom (.ofData data) ps cursors = ps.map fun x => x.1.render x.2 data cursors) := by
  refine ⟨Renderer.execute_context, inTurn_eq_eachFrom, fun ps c cursors hps hc => ?_,
    fun ps data cursors hps hdata => eachFrom_eq_map hps (.ofData hdata) cursors cursors⟩
  rw [inTurn_eq_eachFrom, eachFrom_eq_map hps hc cursors cursors]

/-- Three renderings in one context with an open scope. The second one fails within its loop, and the third
one has the result of the first. -/
theorem execute_keeps_context_failed :
    let r : Renderer := { filters := .standard }
    let p : Program := ⟨#[.loop ⟨"xs", [.name "xs"]⟩ 2, .echo ⟨"y", [.name "y"]⟩ [] true, .close 0], 1⟩
    let q : Program := ⟨#[.loop ⟨"xs", [.name "xs"]⟩ 2,
      .echo ⟨"loop_value.z", [.name "loop_value", .name "z"]⟩ [] true, .close 0], 1⟩
    inTurn [(r, p), (r, q), (r, p)]
        ⟨.dict [(.str "xs", .list [.record [("z", .str "a")], .str "b"])], [[("y", .str "c")]]⟩ [] =
      [.ok (.text "cc"), .error (.error (.undefined "loop_value.z" (.name "z"))), .ok (.text "cc")] := by
  intro r p q
  have hrecord : (Value.record [("z", .str "a")]).Lasting :=
    ⟨nofun, List.forall_mem_singleton.mpr (.str _)⟩
  have hlist : (Value.list [.record [("z", .str "a")], .str "b"]).Lasting :=
    ⟨nofun, List.forall_mem_cons.mpr ⟨hrecord, List.forall_mem_singleton.mpr (.str _)⟩⟩
  have hdata : (Value.dict [(.str "xs", .list [.record [("z", .str "a")], .str "b"])]).Lasting :=
    .dict (List.forall_mem_singleton.mpr ⟨.str _, hlist⟩)
  have hsteady : r.Steady := Renderer.steady_of_filters Registry.standard_steady
  refine (execute_keeps_context.2.2.1 _ _ _ ?_ ⟨hdata, ?_⟩).trans (by decide +kernel)
  · exact List.forall_mem_cons.mpr ⟨hsteady, List.forall_mem_cons.mpr ⟨hsteady,
      List.forall_mem_singleton.mpr hsteady⟩⟩
  · exact List.forall_mem_singleton.mpr (List.forall_mem_singleton.mpr (.str _))

/-- A filter that gives the next item of the first one-shot iterator, whatever it is called with. -/
def takingFilter : Filter where
  signature := none
  apply _ := do
    match ← get with
    | (x :: xs) :: rest =>
      set (xs :: rest)
      return x
    | _ => return .none

/-- A renderer with this filter. -/
def takingRenderer : Renderer := { filters := ⟨[("take", takingFilter)]⟩ }

/-- The program of an interpolation with this filter. -/
def takingProgram : Program := ⟨#[.echo ⟨"x", [.name "x"]⟩ [⟨"take", [], 0⟩] false], 1⟩

/-- A filter that keeps a state lets a rendering tell that there was another one before it, also if nothing in
their context is a one-shot iterator. -/
theorem exists_inTurn_ne :
    let c : Context := .ofData (.dict [(.str "x", .none)])
    let ps : List (Renderer × Program) := [(takingRenderer, takingProgram), (takingRenderer, takingProgram)]
    takingProgram.problem? = none ∧ c.Lasting ∧
      inTurn ps c [[.int 1]] ≠ ps.map fun x => (x.1.execute x.2 c [[.int 1]]).1 := by
  intro c ps
  have hdata : (Value.dict [(.str "x", .none)]).Lasting :=
    .dict (List.forall_mem_singleton.mpr ⟨.str _, .of_held_eq_nil nofun rfl⟩)
  exact ⟨by decide, .ofData hdata, by decide +kernel⟩

end Gabarit
