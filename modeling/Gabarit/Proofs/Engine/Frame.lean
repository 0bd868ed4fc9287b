import Gabarit.Proofs.Engine.Coherent
import Gabarit.Proofs.Render.Failures

/-!
# What engines leave alone

* `Engine.Task`, `Engine.perform`: what is asked of an engine about one template;
* `Engine.Stores`: one artifact is changed, and is that of its source;
* `compileAnew_stores`, `compileAnew_error`: compiling stores the artifact, or leaves the files alone;
* `Engine.Frames`: what the files are after a step, with a lemma for each step of an engine;
* `perform_render_error`: a rendering that fails like a step before it;
* **`perform_frame`**: what the files are after a task, whether it fails or not.
-/

namespace Gabarit

open Disk

/-- What is asked of an engine about one template. -/
inductive Engine.Task where
  | program
  | compile
  | render (data : Value) (cursors : Cursors)

/-- Does what is asked. -/
def Engine.perform (e : Engine) (name : String) : Task → Work Unit
  | .program => (fun _ => ()) <$> e.program name
  | .compile => (fun _ => ()) <$> e.compile name
  | .render data cursors => (fun _ => ()) <$> e.render name data cursors

/-- The artifact of the template that a name resolves to is that of its source, and all other files are
as they were. -/
def Engine.Stores (e : Engine) (name : String) (d d' : Disk) : Prop :=
  ∃ source cache content, e.config.resolve d name = .ok (source, cache) ∧
    e.contentNow d name = .ok content ∧
    d'.stat cache = .ok (.file (Utf8.encode content.toList) d.now) ∧
    d'.file? = Function.update d.file? (d.place cache) (some (Utf8.encode content.toList, d.now))

variable {e : Engine} {d d' : Disk} {name : String} {source cache : Path} {p : Program} {f : Failure}

/-! ## Compiling -/

theorem compileAnew_stores (hd : d.IsTree) (hresolve : e.config.resolve d name = .ok (source, cache))
    (h : e.compileAnew source cache d = .ok p d') : e.Stores name d d' := by
  obtain ⟨text, content, htext, hcompile, hcontent, hreplace⟩ := compileAnew_eq_ok h
  have hreplaced := replace_replaced hd hreplace
  exact ⟨source, cache, content, hresolve, Coherent.contentNow_eq_ok hresolve htext hcompile hcontent,
    hreplaced.stat, hreplaced.file?⟩

theorem compileAnew_error (hd : d.IsTree) (h : e.compileAnew source cache d = .error f d') :
    d'.file? = d.file? := by
  rw [compileAnew_apply] at h
  split at h
  · cases h
    rfl
  split at h
  · cases h
    rfl
  · rename_i p hcompile
    rw [storeArtifact_apply] at h
    cases hcontent : p.encode with
    | error g =>
      rw [hcontent] at h
      cases h
      rfl
    | ok content =>
      rw [hcontent] at h
      dsimp only at h
      cases hreplace : replace cache (Utf8.encode content.toList) d with
      | ok _ d₁ =>
        rw [hreplace] at h
        cases h
      | error g d₁ =>
        rw [hreplace] at h
        cases h
        exact (replace_error hd hreplace).1.file?

/-! ## Steps -/

/-- What the files are after a step: an artifact is stored, or nothing is changed; and nothing is changed
by a step that fails. -/
structure Engine.Frames {α : Type} (e : Engine) (name : String) (d : Disk) (x : Work α) : Prop where
  files : (stateAfter (x d)).file? = d.file? ∨ e.Stores name d (stateAfter (x d))
  failed : ∀ f d', x d = .error f d' → d'.file? = d.file?

namespace Engine.Frames

variable {α β : Type} {x y : Work α}

theorem of_eq (heq : x d = y d) (h : e.Frames name d y) : e.Frames name d x :=
  ⟨heq ▸ h.files, heq ▸ h.failed⟩

theorem unchanged (h : stateAfter (x d) = d) : e.Frames name d x := by
  refine ⟨.inl (congrArg file? h), fun f d' hx => ?_⟩
  rw [hx] at h
  exact congrArg file? h

theorem ask {question : Disk → Except Failure β} {k : β → Work α}
    (h : ∀ b, question d = .ok b → e.Frames name d (k b)) : e.Frames name d (Work.ask question >>= k) := by
  cases hq : question d with
  | ok b =>
    refine of_eq ?_ (h b hq)
    rw [EStateM.bind_apply, Work.ask_apply, hq]
  | error f =>
    refine unchanged ?_
    rw [EStateM.bind_apply, Work.ask_apply, hq]
    rfl

theorem get {k : Disk → Work α} (h : e.Frames name d (k d)) : e.Frames name d (MonadState.get >>= k) :=
  of_eq (y := k d) rfl h

theorem map (h : e.Frames name d x) (g : α → β) : e.Frames name d (g <$> x) := by
  refine ⟨?_, fun f d' hx => h.failed f d' (EStateM.map_eq_error.mp hx)⟩
  rw [stateAfter_map]
  exact h.files

theorem compileAnew (hd : d.IsTree) (hresolve : e.config.resolve d name = .ok (source, cache)) :
    e.Frames name d (e.compileAnew source cache) where
  files := by
    cases h : e.compileAnew source cache d with
    | ok p d' => exact .inr (compileAnew_stores hd hresolve h)
    | error f d' => exact .inl (compileAnew_error hd h)
  failed _ _ h := compileAnew_error hd h

theorem program (e : Engine) (name : String) (hd : d.IsTree) : e.Frames name d (e.program name) := by
  refine .ask fun ⟨source, cache⟩ hresolve => .ask fun stale _ => ?_
  have hanew := Frames.compileAnew hd hresolve
  cases stale with
  | true => exact hanew
  | false =>
    simp only [Bool.false_eq_true, if_false]
    refine .get ?_
    cases e.loadFitting d cache with
    | ok p => exact .unchanged rfl
    | error f =>
      dsimp only
      split_ifs
      · exact hanew
      · exact .unchanged rfl

theorem compile (e : Engine) (name : String) (hd : d.IsTree) : e.Frames name d (e.compile name) :=
  .ask fun _ hresolve => (Frames.compileAnew hd hresolve).map fun _ => _

end Engine.Frames

/-! ## Tasks -/

theorem perform_frames (hd : d.IsTree) (task : Engine.Task)
    (htask : ∀ data cursors, task ≠ .render data cursors) : e.Frames name d (e.perform name task) := by
  cases task with
  | program => exact (Engine.Frames.program e name hd).map _
  | compile => exact (Engine.Frames.compile e name hd).map _
  | render data cursors => exact absurd rfl (htask data cursors)

theorem perform_files (hd : d.IsTree) (task : Engine.Task) :
    (stateAfter (e.perform name task d)).file? = d.file? ∨
      e.Stores name d (stateAfter (e.perform name task d)) := by
  cases task with
  | program => exact (perform_frames hd .program nofun).files
  | compile => exact (perform_frames hd .compile nofun).files
  | render data cursors =>
    rw [Engine.perform, stateAfter_map, stateAfter_render]
    exact (Engine.Frames.program e name hd).files

theorem perform_render_error (hd : d.IsTree) (hfilters : e.filters.Late) {data : Value} {cursors : Cursors}
    (h : e.perform name (.render data cursors) d = .error f d') (hf : ¬f.Late) : d'.file? = d.file? := by
  rw [Engine.perform, EStateM.map_eq_error, render_apply] at h
  cases hprogram : e.program name d with
  | error g d₁ =>
    rw [hprogram] at h
    cases h
    exact (Engine.Frames.program e name hd).failed f d' hprogram
  | ok p d₁ =>
    rw [hprogram] at h
    dsimp only at h
    cases hrender : e.renderer.render p data cursors with
    | ok text =>
      rw [hrender] at h
      cases h
    | error g =>
      rw [hrender] at h
      cases h
      have hchecks : ∀ c ∈ p.calls, e.renderer.filters.check c = .ok () := program_checks hprogram
      exact absurd (Renderer.render_late hfilters hchecks hrender) hf

/-- **What a task leaves.** All files are as they were, but for the artifact of the template that the name
resolves to; and that is as it was, or the one of the program that its source has. Nothing is changed by a
task that fails at finding, reading, compiling or storing. A name that gives way to the usual template gets
no artifact of its own, unless that is in the same place. -/
theorem perform_frame (hd : d.IsTree) (e : Engine) (name : String) (task : Engine.Task) :
    ((stateAfter (e.perform name task d)).file? = d.file? ∨
      e.Stores name d (stateAfter (e.perform name task d))) ∧
    (∀ f d', e.perform name task d = .error f d' →
      (∀ data cursors, task = .render data cursors → ¬f.Late ∧ e.filters.Late) → d'.file? = d.file?) ∧
    ∀ source cache own other, e.config.resolve d name = .ok (source, cache) →
      e.config.sourceOf name = .ok own → d.isFile own = .ok false →
      e.config.artifactOf name = .ok other → d.place other ≠ d.place cache →
      (stateAfter (e.perform name task d)).file? (d.place other) = d.file? (d.place other) := by
  have hfiles : (stateAfter (e.perform name task d)).file? = d.file? ∨
      e.Stores name d (stateAfter (e.perform name task d)) := perform_files hd task
  refine ⟨hfiles, fun f d' h htask => ?_, fun source cache own other hresolve _ _ _ hapart => ?_⟩
  · cases task with
    | program => exact (perform_frames hd .program nofun).failed f d' h
    | compile => exact (perform_frames hd .compile nofun).failed f d' h
    | render data cursors =>
      obtain ⟨hf, hfilters⟩ := htask data cursors rfl
      exact perform_render_error hd hfilters h hf
  · obtain hsame | ⟨source', cache', content, hresolve', -, -, hfile⟩ := hfiles
    · rw [hsame]
    · cases hresolve.symm.trans hresolve'
      rw [hfile, Function.update_of_ne hapart]

/-- A page that cannot be compiled: its old artifact stays. -/
theorem perform_frame_unbalanced :
    let e : Engine := {}
    let d : Disk := ⟨[(["views"], .directory 0), (["views", "cache"], .directory 0),
      (["views", "page.html"], .file (Utf8.encode "\x7b% end %\x7d".toList) 1),
      (["views", "cache", "page.json"], .file [] 0)], [], 2⟩
    let f : Failure := .error (.compile ⟨.unexpectedEnd, "end", some 1, some "views/page.html"⟩)
    ∃ d', e.perform "page" (.render (.dict []) []) d = .error f d' ∧ d'.file? = d.file? := by
  intro e d f
  have hd : d.IsTree := by
    unfold d
    decide +kernel
  have hperform : e.perform "page" (.render (.dict []) []) d = .error f d := by
    unfold e d f
    rfl
  exact ⟨d, hperform, (perform_frame hd e "page" (.render (.dict []) [])).2.1 f d hperform
    fun _ _ _ => ⟨id, Registry.standard_late⟩⟩

/-- The artifact of the usual template can be in the place of that of a missing one; and a filter can fail
like a step before the rendering, when the artifact is already stored. -/
theorem perform_frame_collision :
    (let e : Engine := { config := { defaultTemplate := "a-b" } }
     let d : Disk :=
      ⟨[(["views"], .directory 0), (["views", "a-b.html"], .file (Utf8.encode "one".toList) 0)], [], 1⟩
     let other : Path := .ofText "views/cache/a-b.json"
     e.config.sourceOf "a/b" = .ok (.ofText "views/a/b.html") ∧
      d.isFile (.ofText "views/a/b.html") = .ok false ∧
      e.config.artifactOf "a/b" = .ok other ∧ d.file? (d.place other) = none ∧
      ((stateAfter (e.perform "a/b" .program d)).file? (d.place other)).isSome = true) ∧
    (let missing : Failure := .error (.notFound "x" [])
     let e : Engine := { filters := ⟨[("f", ⟨none, fun _ => throw missing⟩)]⟩ }
     let d : Disk := ⟨[(["views"], .directory 0),
      (["views", "x.html"], .file (Utf8.encode "\x7b\x7b x | f \x7d\x7d".toList) 0)], [], 1⟩
     let cache : Path := .ofText "views/cache/x.json"
     let r := e.perform "x" (.render (.dict [(.str "x", .none)]) []) d
     failureOf r = some missing ∧ d.file? (d.place cache) = none ∧
      ((stateAfter r).file? (d.place cache)).isSome = true) := by
  decide +kernel

end Gabarit
