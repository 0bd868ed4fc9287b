import Gabarit.Filter.Standard
import Gabarit.Proofs.Filter.Check
import Gabarit.Proofs.Render.Blind
import Gabarit.Proofs.Render.Simulation

/-!
# Renderings of lasting values

What is rendered from lasting values does not depend on what is left of the one-shot iterators, if the
filters do not make a difference.

* `Registry.Steady`: what each filter makes of lasting values is lasting and depends on them alone;
  `Registry.standard_steady`: it holds of the standard ones;
* `Renderer.Steady`: the text that a pipeline makes of a lasting value depends on the value alone;
* `Render.Blind`: a part of a run in a lasting context goes the same way whatever is left of the one-shot
  iterators;
* `Renderer.run_blind`: all runs do, if the renderer is steady;
* **`Renderer.execute_steady`**: the text of a program in a lasting context, or the failure, does not
  depend on the one-shot iterators.
-/

namespace Gabarit

/-! ## Steady filters -/

/-- From lasting values, the filter makes a lasting value or fails, whatever is left of the one-shot
iterators: it keeps no state and makes no iterators. -/
def Filter.Steady (f : Filter) : Prop :=
  ∀ args, (∀ v ∈ args, v.Lasting) → (f.apply args).Blind Value.Lasting

/-- The filters are steady. -/
def Registry.Steady (r : Registry) : Prop := ∀ name f, r.find? name = some f → f.Steady

namespace Filter

theorem ofValue_steady (function : String) {f : Value → Except Fault Value}
    (h : ∀ v w, f v = .ok w → w.Lasting) : (ofValue function f).Steady := by
  intro args _
  dsimp only [ofValue]
  split
  · exact (Action.blind_ofExcept _).mono (h _)
  · exact .pure (.of_held_eq_nil nofun rfl)

theorem ofPair_steady (function parameter : String) {f : Value → Value → Action Value}
    (h : ∀ a v : Value, a.Lasting → v.Lasting → (f a v).Blind Value.Lasting) :
    (ofPair function parameter f).Steady := by
  intro args hargs
  dsimp only [ofPair]
  split
  · rename_i a v
    exact h a v (hargs a (by simp)) (hargs v (by simp))
  · exact .pure (.of_held_eq_nil nofun rfl)

theorem onText_steady (function : String) (f : String → String) : (onText function f).Steady := by
  refine ofValue_steady function fun v w hw => ?_
  obtain ⟨s, -, rfl⟩ := map_eq_ok.mp hw
  exact .of_held_eq_nil nofun rfl

theorem length_lasting {v w : Value} (h : lengthOf v = .ok w) : w.Lasting := by
  unfold lengthOf at h
  split at h
  · cases h
  · split_ifs at h
    cases h
    exact .of_held_eq_nil nofun rfl

theorem join_blind (separator : Value) {value : Value} (h : value.Lasting) :
    (join separator value).Blind Value.Lasting := by
  unfold join
  dsimp only
  refine .ite ((Action.blind_ofExcept _).bind fun source hsource => ?_) (.throw _)
  have hlasting := h.source hsource
  split
  · exact .throw _
  · refine .get_bind (fun c c' _ => by rw [hlasting.bound c c']) fun c _ => ?_
    refine (Action.blind_collect _ _ hlasting).bind fun texts _ => ?_
    split
    · exact .pure (.of_held_eq_nil nofun rfl)
    · exact .pure (.ofPoints _)
    · refine .ite (.throw _) (.pure ?_)
      split <;> exact .of_held_eq_nil nofun rfl

theorem truncate_blind (limit value : Value) : (truncate limit value).Blind Value.Lasting := by
  refine (Action.blind_ofExcept _).bind fun text _ => ?_
  refine (Action.blind_ofExcept _).bind fun fits _ => .ite (.pure (.of_held_eq_nil nofun rfl)) ?_
  split
  · exact .pure (.of_held_eq_nil nofun rfl)
  · exact .ite (.pure (.of_held_eq_nil nofun rfl)) (.throw _)
  · exact .throw _

theorem date_blind (pattern value : Value) : (date pattern value).Blind Value.Lasting := by
  refine (Action.blind_ofExcept _).bind fun t _ => ?_
  split
  · exact .pure (.of_held_eq_nil nofun rfl)
  · exact .throw _
  · exact .throw _

end Filter

/-- **The standard filters are steady.** -/
theorem Registry.standard_steady : Registry.standard.Steady := by
  have hall : ∀ x ∈ Registry.standard.filters, x.2.Steady := by
    simp only [Registry.standard, Filter.all, List.forall_mem_cons]
    refine ⟨?_, ?_, ?_, ?_, ?_, ?_, ?_, ?_, ?_, ?_, ?_, ?_, ?_, ?_, ?_, List.forall_mem_nil _⟩
    case refine_6 => exact Filter.ofValue_steady _ fun v w => Filter.length_lasting
    case refine_11 =>
      refine Filter.ofValue_steady _ fun v w hw => ?_
      obtain ⟨s, -, rfl⟩ := map_eq_ok.mp hw
      exact .of_held_eq_nil nofun rfl
    case refine_12 => exact Filter.ofPair_steady _ _ fun a v _ hv => Filter.join_blind a hv
    case refine_13 =>
      refine Filter.ofPair_steady _ _ fun a v ha hv => .pure ?_
      split_ifs
      · exact hv
      · exact ha
    case refine_14 => exact Filter.ofPair_steady _ _ fun a v _ _ => Filter.truncate_blind a v
    case refine_15 => exact Filter.ofPair_steady _ _ fun a v _ _ => Filter.date_blind a v
    all_goals exact Filter.onText_steady _ _
  intro name f hfind
  obtain ⟨before, after, hfilters, -⟩ := List.lookup_eq_some_iff.mp hfind
  exact hall (name, f) (hfilters ▸ List.mem_append_right _ List.mem_cons_self)

/-! ## Steady renderers -/

namespace Renderer

/-- The text that a pipeline makes of a value. -/
def piped (r : Renderer) (calls : List FilterCall) (v : Value) : Action Rendered := do
  let w ← calls.foldlM r.filtered v
  Action.ofResult ((r.toText w).mapError .fault)

/-- The text that a pipeline makes of a lasting value, or its failure, does not depend on what is left of
the one-shot iterators. -/
def Steady (r : Renderer) : Prop :=
  ∀ (calls : List FilterCall) (v : Value), v.Lasting → ∀ cursors cursors' : Cursors,
    outcome (r.piped calls v cursors) = outcome (r.piped calls v cursors')

variable {r : Renderer}

theorem lasting_insertAt {slot : Int} {v : Value} (hv : v.Lasting) {args passed : List Value}
    (hargs : ∀ w ∈ args, w.Lasting) (h : insertAt slot v args = .ok passed) : ∀ w ∈ passed, w.Lasting := by
  obtain ⟨-, before, after, rfl, rfl⟩ := insertAt_eq_ok h
  obtain ⟨hbefore, hafter⟩ := List.forall_mem_append.mp hargs
  exact List.forall_mem_append.mpr ⟨hbefore, List.forall_mem_cons.mpr ⟨hv, hafter⟩⟩

theorem filtered_blind (h : r.filters.Steady) {v : Value} (hv : v.Lasting) (call : FilterCall) :
    (r.filtered v call).Blind Value.Lasting := by
  have hliterals : ∀ w ∈ call.args.map Scalar.toValue, w.Lasting := by
    intro w hw
    obtain ⟨arg, -, rfl⟩ := List.mem_map.mp hw
    cases arg <;> exact .of_held_eq_nil nofun rfl
  refine (Action.blind_ofResult _).bind fun f hf => ?_
  refine (Action.blind_ofResult _).bind fun args hinsert => Action.Blind.mapFailure ?_ _
  have hargs := lasting_insertAt hv hliterals (mapError_eq_ok.mp hinsert)
  have hfind : r.filters.find? call.name = some f := by
    rw [Registry.get] at hf
    split at hf <;> cases hf
    assumption
  have hsteady := h _ f hfind _ hargs
  unfold Filter.call
  split
  · exact hsteady
  · exact (Action.blind_ofExcept _).bind fun _ _ => hsteady

/-- A renderer with steady filters is steady. -/
theorem steady_of_filters (h : r.filters.Steady) : r.Steady := by
  intro calls v hv
  have hcalls : Action.Blind (calls.foldlM r.filtered v) Value.Lasting := by
    induction calls generalizing v with
    | nil => exact .pure hv
    | cons call calls ih => exact (filtered_blind h hv call).bind fun w hw => ih w hw
  have hpiped : (r.piped calls v).Blind fun _ => True :=
    hcalls.bind fun w _ => (Action.blind_ofResult _).mono fun _ _ => trivial
  exact (Action.blind_iff.mp hpiped).1

end Renderer

/-! ## Parts of a run -/

/-- What a run is seen to do: its context and the pieces that it has written. -/
def Machine.visible (m : Machine) : Context × List Rendered := (m.context, m.written)

/-- From a lasting context, a part of a run ends alike whatever is left of the one-shot iterators, and the
context stays lasting. -/
abbrev Render.Blind {α : Type} (x : Render α) (P : α → Prop) : Prop :=
  Gabarit.Blind Machine.visible (fun t => t.1.Lasting) x P

namespace Render

variable {α : Type} {P : α → Prop}

theorem blind_of_gives {x : Render α} {a : Context → Action α} (hx : ∀ m, Gives (a m.context) x m)
    (ha : ∀ c, c.Lasting → (a c).Blind P) : Render.Blind x P := by
  intro m m' hm hc
  obtain ⟨hcontext, hwritten⟩ := Prod.mk.inj hm
  rw [hx m, hx m', ← hcontext]
  have h := ha m.context hc m.cursors m'.cursors rfl trivial
  generalize a m.context m.cursors = result at h
  generalize a m.context m'.cursors = result' at h
  cases h with
  | ok _ _ hP => exact .ok (by simp [Machine.visible, hcontext, hwritten]) hc hP
  | error _ => exact .error (by simp [Machine.visible, hcontext, hwritten])

theorem resolve_blind (path : FieldPath) : Render.Blind (Render.resolve path) Value.Lasting :=
  blind_of_gives (Gives.resolve path) fun _ hc => (Action.blind_ofResult _).mono fun _ hv => hc.resolve hv

theorem emit_blind (s : Rendered) : Render.Blind (Render.emit s) fun _ => True := by
  refine .modify (fun m m' hm => ?_) fun m hc => hc
  obtain ⟨hcontext, hwritten⟩ := Prod.mk.inj hm
  simp [Machine.visible, hcontext, hwritten]

theorem bindItem_blind {index value : Value} (hindex : index.Lasting) (hvalue : value.Lasting) :
    Render.Blind (bindItem index value) fun _ => True := by
  refine .modify (fun m m' hm => ?_) fun m hc => (hc.bind _ hindex).bind _ hvalue
  obtain ⟨hcontext, hwritten⟩ := Prod.mk.inj hm
  simp [Machine.visible, hcontext, hwritten]

theorem inScope_blind {body : Render α} (h : Render.Blind body P) : Render.Blind (inScope body) P := by
  intro m m' hm hc
  obtain ⟨hcontext, hwritten⟩ := Prod.mk.inj hm
  have h := h { m with context := m.context.push } { m' with context := m'.context.push }
    (by simp [Machine.visible, hcontext, hwritten]) hc.push
  have hclose {m m' : Machine} (hm : m.visible = m'.visible) :
      (closeScope m).visible = (closeScope m').visible := by
    obtain ⟨hcontext, hwritten⟩ := Prod.mk.inj hm
    simp [Machine.visible, closeScope, hcontext, hwritten]
  unfold inScope
  generalize body { m with context := m.context.push } = result at h
  generalize body { m' with context := m'.context.push } = result' at h
  cases h with
  | ok hm hc hP => exact .ok (hclose hm) hc.pop hP
  | error hm => exact .error (hclose hm)

end Render

theorem Items.next_blind {items : Items} (h : items.Lasting) : Render.Blind items.next fun next =>
    ∀ index value rest, next = some (index, value, rest) → index.Lasting ∧ value.Lasting ∧ rest.Lasting := by
  intro m m' hm hc
  obtain ⟨f, hnext⟩ | hnext | ⟨index, value, rest, hindex, hvalue, hrest, hnext⟩ := h.next
  · rw [hnext, hnext]
    exact .error hm
  · rw [hnext, hnext]
    exact .ok hm hc nofun
  · rw [hnext, hnext]
    refine .ok hm hc ?_
    rintro _ _ _ ⟨⟩
    exact ⟨hindex, hvalue, hrest⟩

namespace Renderer

variable {r : Renderer}

theorem echo_blind (h : r.Steady) (path : FieldPath) (calls : List FilterCall) (escape : Bool) :
    Render.Blind (r.echo path calls escape) fun _ => True := by
  refine Render.blind_of_gives (gives_echo r path calls escape) fun c hc => ?_
  have hsplit : r.interpolation path calls escape c = (do
      let v ← Action.ofResult (c.resolve path)
      let s ← r.piped calls v
      return if escape then r.escapeRendered s else s) := by
    simp only [interpolation, piped, bind_assoc]
  rw [hsplit]
  refine (Action.blind_ofResult _).bind fun v hv => ?_
  have hpiped : (r.piped calls v).Blind fun _ => True :=
    Action.blind_iff.mpr ⟨h calls v (hc.resolve hv), fun _ _ _ => trivial⟩
  exact hpiped.bind fun s _ => .pure trivial

theorem test_blind (path : FieldPath) (compares : Bool) (operand : Scalar) :
    Render.Blind (test path compares operand) fun _ => True :=
  (Render.resolve_blind path).bind fun _ _ => .pure trivial

theorem each_blind {body : Render Unit} (hb : Render.Blind body fun _ => True) (fuel : ℕ) {items : Items}
    (h : items.Lasting) : Render.Blind (each body fuel items) fun _ => True := by
  refine blind_each hb (fun items h => (Items.next_blind h).mono fun next hnext => ?_) fuel h
  intro index value rest hsome
  obtain ⟨hindex, hvalue, hrest⟩ := hnext index value rest hsome
  exact ⟨Render.bindItem_blind hindex hvalue, hrest⟩

theorem loop_blind (path : FieldPath) {body : Render Unit} (hb : Render.Blind body fun _ => True) :
    Render.Blind (loop path body) fun _ => True := by
  refine (Render.resolve_blind path).bind fun v hv => ?_
  refine (Render.blind_ofExcept _).bind fun items hitems => Render.inScope_blind ?_
  have hlasting := hv.items hitems
  refine .get_bind (fun m m' _ => ?_) fun m _ => each_blind hb _ hlasting
  rw [hlasting.bound m.cursors m'.cursors]

/-! ## Runs -/

/-- **A steady run in a lasting context goes the same way whatever is left of the one-shot iterators.** -/
theorem run_blind (h : r.Steady) (nodes : Array Node) (fuel : ℕ) (pc stop : Int) :
    Render.Blind (r.run nodes fuel pc stop) fun _ => True :=
  blind_run Render.emit_blind (fun _ path filters escape _ => echo_blind h path filters escape)
    (fun _ path _ compares operand _ => test_blind path compares operand)
    (fun _ path _ _ _ hbody => loop_blind path hbody) fuel pc stop

/-- **The text of a program in a lasting context, or the failure, does not depend on what is left of the
one-shot iterators.** -/
theorem execute_steady (h : r.Steady) (p : Program) {c : Context} (hc : c.Lasting)
    (cursors cursors' : Cursors) : (r.execute p c cursors).1 = (r.execute p c cursors').1 := by
  have hrun := run_blind h p.nodes (fuelFor p) 0 p.nodes.size { context := c, cursors }
    { context := c, cursors := cursors' } rfl hc
  unfold execute runProgram
  generalize r.run p.nodes (fuelFor p) 0 p.nodes.size { context := c, cursors } = result at hrun
  generalize r.run p.nodes (fuelFor p) 0 p.nodes.size { context := c, cursors := cursors' } = result' at hrun
  cases hrun with
  | ok hm _ _ =>
    dsimp only
    rw [(Prod.mk.inj hm).2]
  | error _ => rfl

end Renderer

end Gabarit
