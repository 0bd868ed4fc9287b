import Gabarit.Proofs.Render.Effects

/-!
# Failures of renderings

A rendering does not fail like the steps before it, unless a filter does.

* `FailsWith`: all failures of a computation have a property;
* `Failure.Late`: a failure that is not one of finding, reading, compiling or storing a template;
* `Registry.Late`: the filters have only such failures; `standard_late`: the standard ones do;
* **`Renderer.render_late`**: a rendering has only such failures.
-/

namespace Gabarit

/-- Whatever a computation fails with has a property. -/
def FailsWith {ε σ α : Type} (P : ε → Prop) (x : EStateM ε σ α) : Prop :=
  ∀ s f s', x s = .error f s' → P f

/-- A failure that is not one of finding, reading, compiling or storing a template. -/
def Failure.Late : Failure → Prop
  | .error (.compile _) | .error (.notFound ..) | .error (.unreadable ..) | .error (.unwritable ..) => False
  | _ => True

/-- The filters have no failures of the steps before a rendering. -/
def Registry.Late (r : Registry) : Prop :=
  ∀ name f, r.find? name = some f → ∀ args, FailsWith Failure.Late (f.apply args)

theorem Registry.standard_late : Registry.standard.Late := by
  intro name f hfind args s g s' hg
  obtain ⟨-, hfault⟩ := Registry.standard_obeys .any name f hfind args s
  rw [hg] at hfault
  obtain ⟨fault, rfl⟩ := hfault g rfl
  exact trivial

theorem Failure.late_filterFailure {f : Failure} (h : f.Late) (name : String) :
    (Render.filterFailure name f).Late := by
  cases f with
  | error e => exact h
  | fault g =>
    rw [Render.filterFailure]
    split_ifs <;> exact trivial

namespace Renderer

variable {r : Renderer}

/-- The filters of all calls are there. -/
def Finds (r : Registry) (calls : List FilterCall) : Prop := ∀ c ∈ calls, ∃ f, r.get c.name = .ok f

theorem Finds.find? {filters : Registry} {calls : List FilterCall} (h : Finds filters calls)
    {c : FilterCall} (hc : c ∈ calls) : filters.find? c.name ≠ none := by
  intro hnone
  obtain ⟨f, hf⟩ := h c hc
  rw [Registry.get, hnone] at hf
  cases hf

theorem finds_of_check {filters : Registry} {p : Program} (h : ∀ c ∈ p.calls, filters.check c = .ok ())
    {node : Node} (hnode : node ∈ p.nodes) : Finds filters (Engine.callsOf node) := by
  intro c hc
  have hmem : c ∈ p.calls := List.mem_flatMap.mpr ⟨node, Array.mem_toList_iff.mpr hnode, hc⟩
  obtain ⟨f, hf, -⟩ := bind_eq_ok.mp (h c hmem)
  exact ⟨f, hf⟩

theorem promises_late (h : r.filters.Late) : r.Promises .any Failure.Late where
  undefined _ _ := trivial
  notIterable _ _ := trivial
  item _ _ _ := trivial
  endless := trivial
  text _ _ _ := trivial
  shape _ _ := trivial
  filters name f hfind args s := by
    refine ⟨trivial, fun g hg => Failure.late_filterFailure ?_ name⟩
    cases happly : f.apply args s with
    | ok v s' =>
      rw [happly] at hg
      cases hg
    | error g' s' =>
      rw [happly] at hg
      cases hg
      exact h name f hfind args s g s' happly

theorem run_of_render_error {p : Program} {data : Value} {cursors : Cursors} {f : Failure}
    (h : r.render p data cursors = .error f) :
    f ∈ failureOf (r.runProgram p { context := .ofData data, cursors }) := by
  rw [render, execute] at h
  split at h
  · cases h
  · rename_i g m hg
    cases h
    rw [hg]
    rfl

/-- **A rendering fails by failures of its own**, if its filters do and are there. -/
theorem render_late (hr : r.filters.Late) {p : Program} (hcalls : ∀ c ∈ p.calls, r.filters.check c = .ok ())
    {data : Value} {cursors : Cursors} {f : Failure} (h : r.render p data cursors = .error f) : f.Late := by
  have hnodes (node : Node) (hnode : node ∈ p.nodes) : r.Admits Failure.Late node :=
    ⟨fun _ _ _ => trivial, fun c hc hnone => absurd hnone ((finds_of_check hcalls hnode).find? hc),
      fun _ _ _ => trivial⟩
  have hrange : InRange p.nodes (fuelFor p) 0 p.nodes.size ∨
      Failure.Late (.fault .tooDeep) ∧ Failure.Late (.fault .indexRange) := .inr ⟨trivial, trivial⟩
  exact (run_obeys (promises_late hr) hnodes hrange _).2 f (run_of_render_error h)

end Renderer

end Gabarit
