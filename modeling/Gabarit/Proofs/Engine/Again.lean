import Gabarit.Proofs.Disk.Again
import Gabarit.Proofs.Disk.Faults
import Gabarit.Proofs.Engine.Resolve
import Gabarit.Proofs.Engine.Steps
import Gabarit.Proofs.Render.Shared

/-!
# Rendering a template twice

The first rendering compiles the template and stores its artifact, the second one finds the artifact.

* `SameOutcome`: the outcomes of two computations are the same;
* `Engine.Transparent`: the artifact is missing, is not taken for a source, and keeps all numbers;
* `program_again`: the second program of a template is the first one;
* **`render_twice`**: the second rendering has the outcome of the first one;
* `exists_render_twice_ne`: not if the artifact is taken for a source, or a filter keeps a state.
-/

namespace Gabarit

open Disk

/-- The computations have the same outcome. Of two failures to write an artifact the reasons may
differ: the first one may have made some of the directories. -/
def SameOutcome {α : Type} : EStateM.Result Failure Disk α → EStateM.Result Failure Disk α → Prop
  | .ok a _, .ok b _ => a = b
  | .error f _, .error g _ => f = g ∨ ∃ cache reason reason',
      f = .error (.unwritable cache reason) ∧ g = .error (.unwritable cache reason')
  | _, _ => False

theorem SameOutcome.refl {α : Type} (r : EStateM.Result Failure Disk α) : SameOutcome r r := by
  cases r with
  | ok a d => exact rfl
  | error f d => exact .inl rfl

/-- Nothing is where the artifact will be; a source that gives way to the usual one stays missing; and
all numbers in the program are finite, so that the artifact keeps them. -/
structure Engine.Transparent (e : Engine) (d : Disk) (name : String) (source cache : Path) : Prop where
  missing : d.find? (d.place cache) = none
  stays : ∀ own, e.config.sourceOf name = .ok own → d.isFile own = .ok false →
    e.config.StaysMissing d own cache
  finite : ∀ text p, sourceText d e.config.charset source = .ok text →
    Gabarit.compile e.filters text source.text = .ok p → p.Finite

variable {e : Engine} {d d' : Disk} {name : String} {source cache : Path}

theorem stat_of_missing (h : d.find? (d.place cache) = none) : ∃ f, d.stat cache = .error f := by
  cases hstat : d.stat cache with
  | error f => exact ⟨f, rfl⟩
  | ok x =>
    obtain ⟨r, hr, hfind⟩ := stat_eq_ok.mp hstat
    rw [locate_place hr, h] at hfind
    cases hfind

theorem stat_ne_nul (h : hasNul cache = false) : d.stat cache ≠ .error .nulInName := by
  intro hstat
  rw [stat] at hstat
  cases hlocate : d.locate cache with
  | error f =>
    rw [hlocate] at hstat
    cases hstat
    exact locate_ne_nul h hlocate
  | ok r =>
    rw [hlocate] at hstat
    simp only [bind, Except.bind] at hstat
    split at hstat <;> cases hstat

theorem read_ne_nul (h : hasNul cache = false) : d.read cache ≠ .error .nulInName := by
  intro hread
  rw [Disk.read] at hread
  cases hstat : d.stat cache with
  | error f =>
    rw [hstat] at hread
    cases hread
    exact stat_ne_nul h hstat
  | ok x =>
    rw [hstat] at hread
    cases x <;> cases hread

theorem needsCompiling_of_missing (h : d.find? (d.place cache) = none) (source : Path) :
    needsCompiling d source cache = if hasNul cache then .error (.fault (.file .nulInName)) else .ok true := by
  obtain ⟨f, hf⟩ := stat_of_missing h
  rw [needsCompiling, hf]
  by_cases hnul : hasNul cache = true
  · rw [stat, locate, if_pos hnul] at hf
    cases hf
    rw [if_pos hnul]
  · rw [if_neg hnul]
    have hne : f ≠ .nulInName := fun h => stat_ne_nul (by simpa using hnul) (h ▸ hf)
    cases f with
    | nulInName => exact absurd rfl hne
    | _ => rfl

theorem exists_needsCompiling (hcache : hasNul cache = false) {x : Entry} (hsource : d.stat source = .ok x) :
    ∃ stale, needsCompiling d source cache = .ok stale := by
  rw [needsCompiling]
  cases hstat : d.stat cache with
  | ok y => exact ⟨_, by rw [hsource]⟩
  | error f =>
    cases f with
    | nulInName => exact absurd hstat (stat_ne_nul hcache)
    | _ => exact ⟨true, rfl⟩

theorem program_cases (hresolve : e.config.resolve d name = .ok (source, cache)) (hcache : hasNul cache = false)
    {x : Entry} (hsource : d.stat source = .ok x)
    (hload : ∀ f, e.loadFitting d cache = .error f → Engine.callsForCompiling f = true) :
    e.program name d = e.compileAnew source cache d ∨
      ∃ p, e.loadFitting d cache = .ok p ∧ e.program name d = .ok p d := by
  obtain ⟨stale, hstale⟩ := exists_needsCompiling hcache hsource
  rw [program_apply, hresolve]
  dsimp only
  rw [hstale]
  cases stale with
  | true => exact .inl rfl
  | false =>
    dsimp only
    cases hfitting : e.loadFitting d cache with
    | ok p => exact .inr ⟨p, rfl, rfl⟩
    | error f => exact .inl (if_pos (hload f hfitting))

/-! ## Artifacts that are found -/

theorem loadFitting_of_unreadable {f : FileFault} (h : d.read cache = .error f) (hf : f ≠ .nulInName) :
    e.loadFitting d cache = .error (.error (.badArtifact cache (.file f))) := by
  rw [Engine.loadFitting, loadArtifact, h]
  simp only [Except.mapError, bind, Except.bind, if_neg hf]

theorem loadFitting_stored {p : Program} {text content : String}
    (hcompile : compile e.filters text source.text = .ok p) (hfinite : p.Finite)
    (hcontent : p.encode = .ok content) (hread : d.read cache = .ok (Utf8.encode content.toList)) :
    e.loadFitting d cache = .ok p ∨
      e.loadFitting d cache = .error (.error (.badArtifact cache .content)) := by
  rw [loadFitting_encode hcompile hcontent hread, Program.stored_eq_self.mpr hfinite]
  split_ifs
  · exact .inl rfl
  · exact .inr rfl

theorem compileAnew_of_compile (cache : Path) {p : Program} {text : String}
    (htext : sourceText d e.config.charset source = .ok text)
    (hcompile : compile e.filters text source.text = .ok p) :
    e.compileAnew source cache d = match storeArtifact cache p d with
      | .error f d' => .error f d'
      | .ok () d' => .ok p d' := by
  cases hstore : storeArtifact cache p d <;> simp only [compileAnew_apply, htext, hcompile, hstore]

theorem program_after_store (hd : d.IsTree) (h : e.Transparent d name source cache)
    (hresolve : e.config.resolve d name = .ok (source, cache)) (hcache : hasNul cache = false)
    {p : Program} {text content : String} (htext : sourceText d e.config.charset source = .ok text)
    (hcompile : compile e.filters text source.text = .ok p) (hcontent : p.encode = .ok content)
    (hstore : replace cache (Utf8.encode content.toList) d = .ok () d') :
    ∃ d'', e.program name d' = .ok p d'' := by
  obtain ⟨⟨hgains, -⟩, hstat⟩ := replace_gains hd h.missing hstore
  have hresolve' := Config.resolve_gains hd hgains hresolve h.stays
  obtain ⟨bytes, hread, hdecodes⟩ := sourceText_eq_ok.mp htext
  have htext' : sourceText d' e.config.charset source = .ok text :=
    sourceText_eq_ok.mpr ⟨bytes, hgains.read hread, hdecodes⟩
  obtain ⟨t, hsource⟩ := read_eq_ok.mp hread
  have hload := loadFitting_stored hcompile (h.finite text p htext hcompile) hcontent
    (read_eq_ok.mpr ⟨_, hstat⟩)
  obtain hprogram | ⟨q, hq, hprogram⟩ := program_cases hresolve' hcache (hgains.stat hsource) fun f hf => by
    obtain hload | hload := hload
    · rw [hload] at hf
      cases hf
    · rw [hload] at hf
      cases hf
      rfl
  · obtain ⟨d'', hagain⟩ := replace_again hd hstore
    refine ⟨d'', ?_⟩
    rw [hprogram, compileAnew_of_compile cache htext' hcompile, storeArtifact_apply, hcontent]
    dsimp only
    rw [hagain]
  · obtain hload | hload := hload
    · rw [hload] at hq
      cases hq
      exact ⟨d', hprogram⟩
    · rw [hload] at hq
      cases hq

theorem program_after_failure (hd : d.IsTree) (h : e.Transparent d name source cache)
    (hresolve : e.config.resolve d name = .ok (source, cache)) (hcache : hasNul cache = false)
    {p : Program} {text content : String} (htext : sourceText d e.config.charset source = .ok text)
    (hcompile : compile e.filters text source.text = .ok p) (hcontent : p.encode = .ok content)
    {f : FileFault} (hstore : replace cache (Utf8.encode content.toList) d = .error f d') :
    ∃ f' d'', f' ≠ .nulInName ∧ e.program name d' = .error (fileFailure (.unwritable cache) f') d'' := by
  obtain ⟨hgrows, hd'⟩ := replace_error hd hstore
  have hgains := hgrows.gains (d.place cache)
  have hresolve' := Config.resolve_gains hd hgains hresolve h.stays
  obtain ⟨bytes, hread, hdecodes⟩ := sourceText_eq_ok.mp htext
  have htext' : sourceText d' e.config.charset source = .ok text :=
    sourceText_eq_ok.mpr ⟨bytes, hgains.read hread, hdecodes⟩
  obtain ⟨t, hsource⟩ := read_eq_ok.mp hread
  -- there is still no file in the place of the artifact
  have hunread (b : List UInt8) : d'.read cache ≠ .ok b := by
    intro hb
    obtain ⟨t', ht'⟩ := read_eq_ok.mp hb
    obtain ⟨r, hr, hfind⟩ := stat_eq_ok.mp ht'
    obtain rfl : r = d.place cache := (locate_place hr).trans (place_congr hgrows.current cache)
    obtain hfound | ⟨-, hfound⟩ := hgrows.added hfind
    · rw [h.missing] at hfound
      cases hfound
    · cases hfound
  have hload : ∃ g, g ≠ .nulInName ∧ d'.read cache = .error g := by
    cases hread' : d'.read cache with
    | ok b => exact absurd hread' (hunread b)
    | error g => exact ⟨g, fun hg => read_ne_nul hcache (hg ▸ hread'), rfl⟩
  obtain ⟨g, hg, hread'⟩ := hload
  have hload := loadFitting_of_unreadable (e := e) hread' hg
  obtain hprogram | ⟨q, hq, -⟩ := program_cases hresolve' hcache (hgains.stat hsource) fun f hf => by
    rw [hload] at hf
    cases hf
    rfl
  · obtain ⟨f', d'', hagain⟩ := replace_again_error hd hstore
    refine ⟨f', d'', replace_ne_nul hcache hagain, ?_⟩
    rw [hprogram, compileAnew_of_compile cache htext' hcompile, storeArtifact_apply, hcontent]
    dsimp only
    rw [hagain]
  · rw [hload] at hq
    cases hq

/-! ## Twice -/

theorem SameOutcome.of_eq {α : Type} {x : Work α} (h : stateAfter (x d) = d) :
    SameOutcome (x d) (x (stateAfter (x d))) := by
  rw [h]
  exact .refl _

theorem program_again (hd : d.IsTree) (h : ∀ source cache, e.config.resolve d name = .ok (source, cache) →
    e.Transparent d name source cache) :
    SameOutcome (e.program name d) (e.program name (stateAfter (e.program name d))) := by
  cases hresolve : e.config.resolve d name with
  | error f => exact .of_eq (by rw [program_apply, hresolve]; rfl)
  | ok paths =>
    obtain ⟨source, cache⟩ := paths
    have hplain := h source cache hresolve
    have hneeds := needsCompiling_of_missing hplain.missing source
    by_cases hcache : hasNul cache = true
    · refine .of_eq ?_
      rw [if_pos hcache] at hneeds
      rw [program_apply, hresolve]
      dsimp only
      rw [hneeds]
      rfl
    rw [if_neg hcache] at hneeds
    rw [Bool.not_eq_true] at hcache
    have hfirst : e.program name d = e.compileAnew source cache d := by
      rw [program_apply, hresolve]
      dsimp only
      rw [hneeds]
    cases htext : sourceText d e.config.charset source with
    | error f => exact .of_eq (by rw [hfirst, compileAnew_apply, htext]; rfl)
    | ok text =>
      cases hcompile : compile e.filters text source.text with
      | error f =>
        refine .of_eq ?_
        rw [hfirst, compileAnew_apply, htext]
        dsimp only
        rw [hcompile]
        rfl
      | ok p =>
        have hanew := compileAnew_of_compile cache htext hcompile
        cases hcontent : p.encode with
        | error f => exact .of_eq (by rw [hfirst, hanew, storeArtifact_apply, hcontent]; rfl)
        | ok content =>
          rw [storeArtifact_apply, hcontent] at hanew
          dsimp only at hanew
          cases hstore : replace cache (Utf8.encode content.toList) d with
          | ok a d' =>
            rw [hstore] at hanew
            obtain ⟨d'', hagain⟩ := program_after_store hd hplain hresolve hcache htext hcompile hcontent hstore
            rw [hfirst, hanew]
            dsimp only [stateAfter]
            rw [hagain]
            exact rfl
          | error f d' =>
            rw [hstore] at hanew
            obtain ⟨f', d'', hf', hagain⟩ :=
              program_after_failure hd hplain hresolve hcache htext hcompile hcontent hstore
            rw [hfirst, hanew]
            dsimp only [stateAfter]
            rw [hagain, fileFailure, fileFailure, if_neg (replace_ne_nul hcache hstore), if_neg hf']
            exact .inr ⟨cache, f.message, f'.message, rfl, rfl⟩

/-- **The second rendering of a template has the outcome of the first one**, if its artifact was missing
before, the data holds no one-shot iterators and the filters are steady. So it does not matter what the first
rendering has left of other iterators, and of the state that filters keep in them. -/
theorem render_twice (hd : d.IsTree) (h : ∀ source cache, e.config.resolve d name = .ok (source, cache) →
    e.Transparent d name source cache) (hsteady : e.renderer.Steady) {data : Value} (hdata : data.Lasting)
    (cursors cursors' : Cursors) :
    SameOutcome (e.render name data cursors d)
      (e.render name data cursors' (stateAfter (e.render name data cursors d))) := by
  have hagain := program_again hd h
  rw [stateAfter_render, render_apply, render_apply]
  generalize stateAfter (e.program name d) = d₁ at hagain ⊢
  cases hfirst : e.program name d with
  | error f d' =>
    cases hsecond : e.program name d₁ with
    | error g d'' =>
      rw [hfirst, hsecond] at hagain
      exact hagain
    | ok q d'' =>
      rw [hfirst, hsecond] at hagain
      exact hagain.elim
  | ok p d' =>
    cases hsecond : e.program name d₁ with
    | error g d'' =>
      rw [hfirst, hsecond] at hagain
      exact hagain.elim
    | ok q d'' =>
      rw [hfirst, hsecond] at hagain
      cases hagain
      have hsame : e.renderer.render p data cursors' = e.renderer.render p data cursors :=
        Renderer.execute_steady hsteady p (.ofData hdata) cursors' cursors
      dsimp only
      rw [hsame]
      cases e.renderer.render p data cursors with
      | ok text => exact rfl
      | error f => exact .inl rfl

/-- A page is rendered twice from a disk without artifacts. -/
theorem render_twice_page :
    let e : Engine := {}
    let d : Disk := ⟨[(["views"], .directory 0),
      (["views", "page.html"], .file (Utf8.encode "hi \x7b\x7b name \x7d\x7d".toList) 0)], [], 1⟩
    let data : Value := .dict [(.str "name", .str "you")]
    SameOutcome (e.render "page" data [] d)
      (e.render "page" data [] (stateAfter (e.render "page" data [] d))) := by
  intro e d data
  have hd : d.IsTree := isTree_pair ..
  have hresolve : e.config.resolve d "page" =
      .ok (Path.ofText "views/page.html", Path.ofText "views/cache/page.json") := by unfold e d; rfl
  have hown : e.config.sourceOf "page" = .ok (.ofText "views/page.html") := by unfold e; rfl
  have hfile : d.isFile (.ofText "views/page.html") = .ok true := by unfold d; rfl
  have htext : sourceText d e.config.charset (.ofText "views/page.html") =
      .ok "hi \x7b\x7b name \x7d\x7d" := by unfold e d; rfl
  have hcompile : Gabarit.compile e.filters "hi \x7b\x7b name \x7d\x7d" (Path.ofText "views/page.html").text =
      .ok ⟨#[.text "hi ", .echo ⟨"name", [.name "name"]⟩ [] true], 1⟩ := by unfold e; rfl
  have hsteady : e.renderer.Steady := Renderer.steady_of_filters Registry.standard_steady
  have hdata : data.Lasting := .dict (List.forall_mem_singleton.mpr ⟨.str _, .str _⟩)
  refine render_twice hd (fun source cache h => ?_) hsteady hdata [] []
  cases hresolve.symm.trans h
  refine ⟨by unfold d; rfl, fun own h hmissing => ?_, fun text p ht hp => ?_⟩
  · cases hown.symm.trans h
    cases hfile.symm.trans hmissing
  · cases htext.symm.trans ht
    cases hcompile.symm.trans hp
    simp [Program.Finite, Node.literals]

theorem SameOutcome.valueOf_eq {α : Type} {r r' : EStateM.Result Failure Disk α} (h : SameOutcome r r') :
    valueOf r = valueOf r' := by
  cases r <;> cases r'
  · exact congrArg some h
  · exact h.elim
  · exact h.elim
  · rfl

/-- The artifact of the usual template can be taken for the source of another one; and a filter that keeps a state
in an iterator lets the second rendering tell that there was a first one. -/
theorem exists_render_twice_ne :
    (let e : Engine := { config :=
       { templateDir := .ofText "v", cacheDir := .ofText "v/sub", cacheExtension := ".html" } }
     let d : Disk :=
       ⟨[(["v"], .directory 0), (["v", "base.html"], .file (Utf8.encode "one".toList) 0)], [], 1⟩
     d.IsTree ∧ e.config.resolve d "sub/base" = .ok (.ofText "v/base.html", .ofText "v/sub/base.html") ∧
       d.stat (.ofText "v/sub/base.html") = .error .notFound ∧
       ¬SameOutcome (e.render "sub/base" (.dict []) [] d)
         (e.render "sub/base" (.dict []) [] (stateAfter (e.render "sub/base" (.dict []) [] d)))) ∧
    let e : Engine := { filters := takingRenderer.filters }
    let d : Disk := ⟨[(["views"], .directory 0),
      (["views", "x.html"], .file (Utf8.encode "\x7b\x7b x|take \x7d\x7d".toList) 0)], [], 1⟩
    let data : Value := .dict [(.str "x", .none)]
    (e.renderer.execute takingProgram (.ofData data) [[.int 1]]).2.2.map List.length = [0] ∧
      ¬SameOutcome (e.render "x" data [[.int 1]] d)
        (e.render "x" data [[]] (stateAfter (e.render "x" data [[.int 1]] d))) := by
  refine ⟨?_, ?_⟩
  · intro e d
    refine ⟨isTree_pair .., by unfold e d; rfl, by unfold d; rfl, fun h => ?_⟩
    have htexts := h.valueOf_eq
    revert htexts
    unfold e d
    decide +kernel
  · intro e d data
    refine ⟨by decide +kernel, fun h => ?_⟩
    have htexts := h.valueOf_eq
    revert htexts
    unfold e d data
    decide +kernel

end Gabarit
