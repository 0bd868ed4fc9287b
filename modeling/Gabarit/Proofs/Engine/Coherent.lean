import Gabarit.Proofs.Disk.Files
import Gabarit.Proofs.Engine.Resolve
import Gabarit.Proofs.Engine.Steps

/-!
# Artifacts that agree with their sources

Engines share a directory of artifacts. Whatever filters they have, an artifact that is not older than its
source is one of this source.

* `Config.Uses`, `Config.Apart`: the paths of the names in use, and that they are not mixed up;
* `Config.apart_of_pathsOf`: this can be decided for finitely many names;
* `Compiled`: the bytes of an artifact are those of a source's program;
* `Coherent`: the invariant;
* `Coherent.save_source`, `Coherent.discard`, `Coherent.spoil`: it is kept when files are changed by hand;
* `Coherent.program`, `Coherent.compile`, `Coherent.compileEach`: it is kept by engines;
* `Engine.Current`, **`Coherent.current_of_program`**: a program that an engine returns is that of the
  source.
-/

namespace Gabarit

open Disk

/-- The paths of the source and of the artifact of a name in use. -/
def Config.Uses (c : Config) (used : String → Prop) (source cache : Path) : Prop :=
  ∃ name, used name ∧ c.sourceOf name = .ok source ∧ c.artifactOf name = .ok cache

/-- The usual name is in use; by its key, a path of an artifact belongs to one source, and is none. -/
structure Config.Apart {α : Type} (c : Config) (used : String → Prop) (key : Path → α) : Prop where
  usual : used c.defaultTemplate
  together : ∀ {source cache source' cache'}, c.Uses used source cache → c.Uses used source' cache' →
    key cache = key cache' → key source = key source'
  disjoint : ∀ {source cache source' cache'}, c.Uses used source cache → c.Uses used source' cache' →
    key cache ≠ key source'

/-- The paths of the source and of the artifact of each name that can have some. -/
def Config.pathsOf (c : Config) (names : List String) : List (Path × Path) :=
  names.filterMap fun name => match c.sourceOf name, c.artifactOf name with
    | .ok source, .ok cache => some (source, cache)
    | _, _ => none

theorem Config.Uses.mem_pathsOf {c : Config} {names : List String} {source cache : Path}
    (h : c.Uses (· ∈ names) source cache) : (source, cache) ∈ c.pathsOf names := by
  obtain ⟨name, hname, hsource, hcache⟩ := h
  refine List.mem_filterMap.mpr ⟨name, hname, ?_⟩
  rw [hsource, hcache]

/-- For finitely many names it can be decided whether their paths are apart. -/
theorem Config.apart_of_pathsOf {α : Type} {c : Config} {names : List String} {key : Path → α}
    (husual : c.defaultTemplate ∈ names)
    (h : ∀ x ∈ c.pathsOf names, ∀ y ∈ c.pathsOf names,
      (key x.2 = key y.2 → key x.1 = key y.1) ∧ key x.2 ≠ key y.1) :
    c.Apart (· ∈ names) key where
  usual := husual
  together hx hy := (h _ hx.mem_pathsOf _ hy.mem_pathsOf).1
  disjoint hx hy := (h _ hx.mem_pathsOf _ hy.mem_pathsOf).2

/-- The artifact is that of the program of the source, with some filters. -/
def Compiled (charset : String) (source artifact : List UInt8) : Prop :=
  ∃ text filters name p content, Decodes charset source text ∧ compile filters text name = .ok p ∧
    p.encode = .ok content ∧ artifact = Utf8.encode content.toList

/-- The invariant of a disk with artifacts: none comes from the future, and those that are not older than
their sources belong to them. -/
structure Coherent (c : Config) (used : String → Prop) (d : Disk) : Prop where
  isTree : d.IsTree
  apart : c.Apart used d.place
  past : ∀ {source cache bytes t p}, c.Uses used source cache →
    d.file? (d.place cache) = some (bytes, t) → Loads bytes p → t ≤ d.now
  fresh : ∀ {source cache bytes t p text u}, c.Uses used source cache →
    d.file? (d.place cache) = some (bytes, t) → Loads bytes p →
    d.file? (d.place source) = some (text, u) → u ≤ t → Compiled c.charset text bytes

/-- The content that the artifact of a name would have, if its source were compiled now. -/
def Engine.contentNow (e : Engine) (d : Disk) (name : String) : Except Failure String := do
  let (source, _) ← e.config.resolve d name
  let text ← sourceText d e.config.charset source
  let p ← Gabarit.compile e.filters text source.text
  p.encode.mapError .fault

/-- The program is that of the source that the name has now: it has the same artifact. -/
def Engine.Current (e : Engine) (d : Disk) (name : String) (p : Program) : Prop :=
  ∃ content, p.encode = .ok content ∧ e.contentNow d name = .ok content

/-- The disk at another time. -/
def Disk.at (d : Disk) (t : ℤ) : Disk := { d with now := t }

theorem Disk.find?_at (d : Disk) (t : ℤ) (p : Place) : (d.at t).find? p = d.find? p := rfl

theorem Disk.start_at (d : Disk) (t : ℤ) (p : Path) : (d.at t).start p = d.start p := rfl

theorem Disk.follow_at (d : Disk) (t : ℤ) (here : Place) (names : List String) :
    (d.at t).follow here names = d.follow here names := by
  induction names generalizing here with
  | nil => rfl
  | cons name names ih => simp only [follow, find?_at, ih]

theorem Disk.stat_at (d : Disk) (t : ℤ) (p : Path) : (d.at t).stat p = d.stat p := by
  simp only [stat, locate, start_at, follow_at, find?_at]

variable {c : Config} {used : String → Prop} {d d' : Disk} {source cache : Path} {bytes : List UInt8}
  {filters : Registry} {name : String}

namespace Coherent

theorem tick (h : Coherent c used d) {t : ℤ} (ht : d.now ≤ t) : Coherent c used (d.at t) where
  isTree := ⟨h.isTree.parent, h.isTree.current⟩
  apart := h.apart
  past huses hcache hloads := (h.past huses hcache hloads).trans ht
  fresh := h.fresh

/-! ## Changes of one file -/

/-- The invariant is kept if it is right for the new content as an artifact, and if the new content as a
source is newer than the artifacts that are there. -/
theorem of_sets {k : Place} {v : Option (List UInt8 × ℤ)} (h : Coherent c used d) (hsets : Sets k v d d')
    (hartifact : ∀ {source cache bytes t p}, c.Uses used source cache → d.place cache = k →
      v = some (bytes, t) → Loads bytes p → t ≤ d.now ∧ ∀ text u,
        d.file? (d.place source) = some (text, u) → u ≤ t → Compiled c.charset text bytes)
    (hsource : ∀ {source cache bytes t p text u}, c.Uses used source cache → d.place source = k →
      v = some (text, u) → d.file? (d.place cache) = some (bytes, t) → Loads bytes p → t < u) :
    Coherent c used d' := by
  have hplace : d'.place = d.place := funext (place_congr hsets.current)
  obtain hfile | hfile := hsets.file?
  · refine ⟨hsets.isTree, ?_, ?_, ?_⟩
    · rw [hplace]
      exact h.apart
    · rw [hplace, hfile, hsets.now]
      exact h.past
    · rw [hplace, hfile]
      exact h.fresh
  · refine ⟨hsets.isTree, ?_, ?_, ?_⟩
    · rw [hplace]
      exact h.apart
    · rw [hplace, hfile, hsets.now]
      intro source cache bytes t p huses hcache hloads
      by_cases hk : d.place cache = k
      · rw [hk, Function.update_self] at hcache
        exact (hartifact huses hk hcache hloads).1
      · rw [Function.update_of_ne hk] at hcache
        exact h.past huses hcache hloads
    · rw [hplace, hfile]
      intro source cache bytes t p text u huses hcache hloads htext hu
      have hne := h.apart.disjoint huses huses
      by_cases hk : d.place cache = k
      · rw [hk, Function.update_self] at hcache
        rw [Function.update_of_ne (hk ▸ hne.symm)] at htext
        exact (hartifact huses hk hcache hloads).2 text u htext hu
      · rw [Function.update_of_ne hk] at hcache
        by_cases hk' : d.place source = k
        · rw [hk', Function.update_self] at htext
          have hlt := hsource huses hk' htext hcache hloads
          omega
        · rw [Function.update_of_ne hk'] at htext
          exact h.fresh huses hcache hloads htext hu

theorem save_source (h : Coherent c used d) (huses : c.Uses used source cache) {t : ℤ} (ht : d.now < t)
    (bytes : List UInt8) : Coherent c used (stateAfter (save source bytes (d.at t))) := by
  have hat := h.tick ht.le
  refine hat.of_sets (save_sets hat.isTree source bytes) ?_ ?_
  · intro source' cache' bytes' t' p huses' hk
    exact absurd hk (h.apart.disjoint huses' huses)
  · intro source' cache' bytes' t' p text u huses' hk hv hcache hloads
    have hpast : t' ≤ d.now := h.past huses' hcache hloads
    cases hv
    exact lt_of_le_of_lt hpast ht

theorem discard (h : Coherent c used d) (path : Path) :
    Coherent c used (stateAfter (discard path d)) := by
  refine h.of_sets (discard_sets h.isTree path) ?_ ?_
  · intro source cache bytes t p huses hk hv
    cases hv
  · intro source cache bytes t p text u huses hk hv
    cases hv

theorem spoil (h : Coherent c used d) (huses : c.Uses used source cache) (hbytes : ∀ p, ¬Loads bytes p) :
    Coherent c used (stateAfter (save cache bytes d)) := by
  refine h.of_sets (save_sets h.isTree cache bytes) ?_ ?_
  · intro source' cache' bytes' t p huses' hk hv hloads
    cases hv
    exact absurd hloads (hbytes p)
  · intro source' cache' bytes' t p text u huses' hk
    exact absurd hk.symm (h.apart.disjoint huses huses')

/-- An artifact of the source replaces the one that is there. -/
theorem replace (h : Coherent c used d) (huses : c.Uses used source cache)
    (hcompiled : ∀ text u, d.file? (d.place source) = some (text, u) → Compiled c.charset text bytes) :
    Coherent c used (stateAfter (replace cache bytes d)) := by
  refine h.of_sets (replace_sets h.isTree cache bytes) ?_ ?_
  · intro source' cache' bytes' t p huses' hk hv hloads
    cases hv
    refine ⟨le_refl _, fun text u htext hu => ?_⟩
    rw [h.apart.together huses' huses hk] at htext
    exact hcompiled text u htext
  · intro source' cache' bytes' t p text u huses' hk
    exact absurd hk.symm (h.apart.disjoint huses huses')

/-! ## Engines -/

theorem uses_of_resolve (h : Coherent c used d) (hname : used name)
    (hresolve : c.resolve d name = .ok (source, cache)) : c.Uses used source cache := by
  obtain ⟨own, hown, ⟨-, rfl, hcache⟩ | ⟨-, husual, -, hcache⟩⟩ := Config.resolve_eq_ok.mp hresolve
  · exact ⟨name, hname, hown, hcache⟩
  · exact ⟨c.defaultTemplate, h.apart.usual, husual, hcache⟩

theorem compileAnew (h : Coherent c used d) (huses : c.Uses used source cache) (filters : Registry) :
    Coherent c used (stateAfter (Engine.compileAnew ⟨c, filters⟩ source cache d)) := by
  unfold Engine.compileAnew
  refine stateAfter_bind (by simpa using h) fun text d₁ htext _ => ?_
  rw [Work.ask_eq_ok] at htext
  obtain ⟨htext, rfl⟩ := htext
  refine stateAfter_bind (by simpa using h) fun p d₂ hcompile _ => ?_
  rw [Work.ofExcept_eq_ok] at hcompile
  obtain ⟨hcompile, rfl⟩ := hcompile
  refine stateAfter_bind ?_ fun _ d₃ _ h₃ => h₃
  rw [storeArtifact_apply]
  cases hcontent : p.encode with
  | error f => exact h
  | ok content =>
    obtain ⟨bytes, hread, hdecodes⟩ := sourceText_eq_ok.mp htext
    obtain ⟨t, ht⟩ := read_eq_ok.mp hread
    have hcompiled : Compiled c.charset bytes (Utf8.encode content.toList) :=
      ⟨text, filters, _, p, content, hdecodes, hcompile, hcontent, rfl⟩
    have hkept : Coherent c used (stateAfter (Disk.replace cache (Utf8.encode content.toList) d₂)) := by
      refine h.replace huses fun bytes' u hbytes' => ?_
      rw [file?_of_stat ht] at hbytes'
      cases hbytes'
      exact hcompiled
    dsimp only
    cases hreplace : Disk.replace cache (Utf8.encode content.toList) d₂ with
    | error f d' =>
      rw [hreplace] at hkept
      exact hkept
    | ok a d' =>
      rw [hreplace] at hkept
      exact hkept

theorem program (h : Coherent c used d) (hname : used name) (filters : Registry) :
    Coherent c used (stateAfter (Engine.program ⟨c, filters⟩ name d)) := by
  rw [program_apply]
  cases hresolve : c.resolve d name with
  | error f => exact h
  | ok paths =>
    obtain ⟨source, cache⟩ := paths
    have hanew := h.compileAnew (h.uses_of_resolve hname hresolve) filters
    dsimp only
    cases needsCompiling d source cache with
    | error f => exact h
    | ok stale =>
      cases stale with
      | true => exact hanew
      | false =>
        dsimp only
        cases Engine.loadFitting ⟨c, filters⟩ d cache with
        | ok p => exact h
        | error f =>
          dsimp only
          split_ifs
          · exact hanew
          · exact h

theorem render (h : Coherent c used d) (hname : used name) (filters : Registry) (data : Value)
    (cursors : Cursors) :
    Coherent c used (stateAfter (Engine.render ⟨c, filters⟩ name data cursors d)) := by
  rw [stateAfter_render]
  exact h.program hname filters

theorem compile (h : Coherent c used d) (hname : used name) (filters : Registry) :
    Coherent c used (stateAfter (Engine.compile ⟨c, filters⟩ name d)) := by
  unfold Engine.compile
  refine stateAfter_bind (by simpa using h) fun paths d₁ hresolve _ => ?_
  rw [Work.ask_eq_ok] at hresolve
  obtain ⟨hresolve, rfl⟩ := hresolve
  refine stateAfter_bind ?_ fun _ d₂ _ h₂ => h₂
  exact h.compileAnew (h.uses_of_resolve hname hresolve) filters

theorem compileEach (h : Coherent c used d)
    (hnames : ∀ names, c.templates d = .ok names → ∀ n ∈ names, used n) (filters : Registry) :
    Coherent c used (stateAfter (Engine.compileEach ⟨c, filters⟩ d)) := by
  unfold Engine.compileEach
  refine stateAfter_bind (by simpa using h) fun names d₁ htemplates _ => ?_
  rw [Work.ask_eq_ok] at htemplates
  obtain ⟨htemplates, rfl⟩ := htemplates
  have hused := hnames names (mapError_eq_ok.mp htemplates)
  exact stateAfter_mapM h fun n hn d hd => hd.compile (hused n hn) filters

theorem contentNow_eq_ok {p : Program} {text content : String}
    (hresolve : c.resolve d name = .ok (source, cache)) (htext : sourceText d c.charset source = .ok text)
    (hcompile : Gabarit.compile filters text source.text = .ok p) (hcontent : p.encode = .ok content) :
    Engine.contentNow ⟨c, filters⟩ d name = .ok content := by
  unfold Engine.contentNow
  simp only [hresolve, htext, hcompile, hcontent, bind, Except.bind, Except.mapError]

theorem current_of_loadFitting (h : Coherent c used d) (hname : used name)
    (hresolve : c.resolve d name = .ok (source, cache)) (hneeds : needsCompiling d source cache = .ok false)
    {p : Program} (hload : Engine.loadFitting ⟨c, filters⟩ d cache = .ok p) :
    Engine.Current ⟨c, filters⟩ d name p := by
  obtain ⟨⟨artifact, hread, hloads⟩, hchecks⟩ := loadFitting_eq_ok.mp hload
  obtain ⟨t, hcache⟩ := read_eq_ok.mp hread
  obtain ⟨bytes, u, hsource⟩ := isFile_eq_true.mp (Config.resolve_isFile hresolve)
  have hu : u ≤ t := by
    obtain ⟨a, b, ha, hb, hab⟩ := needsCompiling_eq_false hneeds
    cases hcache.symm.trans ha
    cases hsource.symm.trans hb
    exact hab
  obtain ⟨text, filters', name', q, content, hdecodes, hcompile, hcontent, rfl⟩ :=
    h.fresh (h.uses_of_resolve hname hresolve) (file?_of_stat hcache) hloads (file?_of_stat hsource) hu
  obtain rfl := eq_stored_of_loads hcontent hloads
  have htext : sourceText d c.charset source = .ok text :=
    sourceText_eq_ok.mpr ⟨bytes, read_eq_ok.mpr ⟨u, hsource⟩, hdecodes⟩
  have hcompile' : Gabarit.compile filters text source.text = .ok q :=
    compile_of_checks hcompile ((q.checks_stored filters).mp hchecks)
  refine ⟨content, ?_, contentNow_eq_ok hresolve htext hcompile' hcontent⟩
  rw [Program.encode_stored, hcontent]

/-- **A program that an engine returns is that of the source.** -/
theorem current_of_program (h : Coherent c used d) (hname : used name) {p : Program}
    (hprogram : Engine.program ⟨c, filters⟩ name d = .ok p d') :
    Engine.Current ⟨c, filters⟩ d name p := by
  obtain ⟨source, cache, hresolve, ⟨hneeds, hload, -⟩ | hanew⟩ := program_eq_ok hprogram
  · exact h.current_of_loadFitting hname hresolve hneeds hload
  · obtain ⟨text, content, htext, hcompile, hcontent, -⟩ := compileAnew_eq_ok hanew
    exact ⟨content, hcontent, contentNow_eq_ok hresolve htext hcompile hcontent⟩

end Coherent

end Gabarit
