import Gabarit.Proofs.Block.Offending
import Gabarit.Proofs.Engine.Coherent
import Gabarit.Proofs.Engine.Listing

/-!
# Compiling all templates

That the names under which files are listed lead back to them, so that each is compiled.

* `Failure.Missing`, `not_missing_of_compileAnew`: compiling a template that is there does not miss it;
* `Present`, `Config.IsSource.present`: a file that is listed is at its path;
* `Engine.compile_eq_ok`: a template that is there is compiled from its own source;
* `Engine.Listed`, `Engine.Keeps`, `Engine.HasArtifact`: what holds while templates are compiled, one after the
  other;
* `Engine.Keeps.mapM_compile`, `Engine.not_missing_of_mapM`: how this ends;
* `Config.IsSource.apart`: no artifact takes the place of a template;
* **`Engine.listed_and_compiled`**: listing, resolving and compiling agree;
* `Engine.exists_listed_missing`: names of files that are missing all the same.
-/

namespace Gabarit

open Disk

variable {e : Engine} {d d' : Disk} {name : String} {source cache : Path} {f : Failure}

/-! ## Failures of compiling -/

/-- The failure tells that there is no template. -/
inductive Failure.Missing : Failure → Prop
  | intro (name : String) (searched : List Path) : Missing (.error (.notFound name searched))

theorem not_missing_fault (g : Fault) : ¬(Failure.fault g).Missing := nofun

theorem not_missing_fileFailure {report : String → Error} (h : ∀ s, ¬(Failure.error (report s)).Missing)
    (g : FileFault) : ¬(fileFailure report g).Missing := by
  unfold fileFailure
  split_ifs
  · exact not_missing_fault _
  · exact h _

theorem sourceText_ends (d : Disk) (charset : String) (source : Path) :
    EndsWith (fun f => ¬f.Missing) (fun _ => True) (sourceText d charset source) := by
  unfold sourceText
  refine .bind (Q := fun _ => True) ?_ fun bytes _ => ?_
  · cases d.read source with
    | ok bytes => exact .ok trivial
    | error g => exact .error (not_missing_fileFailure (by intro s h; cases h) g)
  · split
    · exact .error (not_missing_fault _)
    · exact .error (not_missing_fault _)
    · split
      · exact .ok trivial
      · exact .error nofun
      · exact .error (not_missing_fault _)

theorem not_missing_of_compileAnew (h : e.compileAnew source cache d = .error f d') : ¬f.Missing := by
  rw [compileAnew_apply] at h
  split at h
  · rename_i g htext
    cases h
    exact (sourceText_ends d e.config.charset source).error_of htext
  split at h
  · rename_i g hcompile
    cases h
    obtain ⟨c, line, rfl, -⟩ | ⟨g, rfl, -⟩ := compile_eq_error hcompile
    · exact nofun
    · exact not_missing_fault g
  · rename_i p hcompile
    rw [storeArtifact_apply] at h
    split at h
    · rename_i hstore
      split at hstore
      · cases hstore
        cases h
        exact not_missing_fault _
      · split at hstore
        · cases hstore
        · cases hstore
          cases h
          exact not_missing_fileFailure (by intro s h; cases h) _
    · cases h

/-! ## Files that are there -/

/-- A file is at the path, or the path is too long to be asked about. -/
def Present (d : Disk) (p : Path) : Prop :=
  d.isFile p = .ok true ∨ hasNul p = false ∧ pathLimit ≤ p.text.utf8ByteSize

theorem isFile_of_long (hnul : hasNul source = false) (hlong : pathLimit ≤ source.text.utf8ByteSize) (d : Disk) :
    d.isFile source = .error .nameTooLong := by
  rw [isFile, holds, stat, locate, if_neg (by simp [hnul]), if_pos hlong]
  rfl

theorem Present.replaced {bytes : List UInt8} (h : Present d source) (hreplaced : Replaced cache bytes d d') :
    Present d' source := by
  refine h.imp_left fun hfile => ?_
  obtain ⟨content, t, hstat⟩ := isFile_eq_true.mp hfile
  have hstat' := hreplaced.stat_file hstat
  refine isFile_eq_true.mpr ?_
  split_ifs at hstat'
  · exact ⟨_, _, hstat'⟩
  · exact ⟨_, _, hstat'⟩

namespace Config

variable {c : Config} {parts : List String}

theorem place_sourceAt (hnames : ∀ part ∈ parts, IsFileName part) {base : Place}
    (hbase : d.locate c.templateDir = .ok base) : d.place (c.sourceAt parts) = base ++ parts := by
  change climb (d.start c.templateDir) (c.templateDir.parts ++ parts) = _
  rw [climb_append, ← follow_eq_climb (locate_eq_ok.mp hbase).2.2,
    climb_of_goesDown fun part hpart => (hnames part hpart).goesDown]

theorem IsSource.present (hd : d.IsTree) (hnamed : d.Named) (h : c.IsSource d parts) :
    Present d (c.sourceAt parts) := by
  have hnames := h.isFileName hnamed
  obtain ⟨-, base, hbase, hfile, -⟩ := h
  obtain ⟨⟨bytes, t⟩, hfind⟩ := Option.isSome_iff_exists.mp hfile
  rw [file?_eq_some] at hfind
  obtain ⟨hnul, -, hfollow⟩ := locate_eq_ok.mp hbase
  have hnul' : hasNul (c.sourceAt parts) = false := by
    rw [hasNul, sourceAt, List.any_append, Bool.or_eq_false_iff]
    refine ⟨hnul, List.any_eq_false.mpr fun part hpart => ?_⟩
    simpa using (hnames part hpart).no_nul
  by_cases hlong : pathLimit ≤ (c.sourceAt parts).text.utf8ByteSize
  · exact .inr ⟨hnul', hlong⟩
  · refine .inl (isFile_eq_true.mpr ⟨bytes, t, stat_eq_ok.mpr ⟨base ++ parts, ?_, hfind⟩⟩)
    refine locate_eq_ok.mpr ⟨hnul', Nat.not_le.mp hlong, ?_⟩
    change d.follow (d.start c.templateDir) (c.templateDir.parts ++ parts) = _
    rw [follow_append, hfollow]
    exact hd.follow_of_find? (fun part hpart => (hnames part hpart).goesDown) hfind

theorem exists_artifactOf (h : c.sourceOf name = .ok source) : ∃ cache, c.artifactOf name = .ok cache := by
  obtain ⟨plain, hplain, -⟩ := bind_eq_ok.mp h
  exact ⟨_, bind_eq_ok.mpr ⟨plain, hplain, rfl⟩⟩

theorem resolve_of_present (hsource : c.sourceOf name = .ok source) (hpresent : Present d source) :
    (∃ cache, c.artifactOf name = .ok cache ∧ c.resolve d name = .ok (source, cache)) ∨
      ∃ g, c.resolve d name = .error (.fault g) := by
  obtain ⟨cache, hcache⟩ := exists_artifactOf hsource
  obtain hfile | ⟨hnul, hlong⟩ := hpresent
  · exact .inl ⟨cache, hcache, resolve_eq_ok.mpr ⟨source, hsource, .inl ⟨hfile, rfl, hcache⟩⟩⟩
  · refine .inr ⟨.file .nameTooLong, ?_⟩
    rw [resolve, hsource]
    simp only [bind, Except.bind, isFile_of_long hnul hlong]
    rfl

end Config

/-! ## One template -/

namespace Engine

theorem compile_apply (e : Engine) (name : String) (d : Disk) : e.compile name d =
    match e.config.resolve d name with
      | .error f => .error f d
      | .ok (source, cache) => match e.compileAnew source cache d with
        | .ok _ d' => .ok cache d'
        | .error f d' => .error f d' := by
  rw [Engine.compile, EStateM.bind_apply, Work.ask_apply]
  cases e.config.resolve d name with
  | error f => rfl
  | ok paths =>
    obtain ⟨source, cache⟩ := paths
    dsimp only
    rw [EStateM.bind_apply]
    cases e.compileAnew source cache d <;> rfl

theorem not_missing_of_compile (hsource : e.config.sourceOf name = .ok source) (hpresent : Present d source)
    (h : e.compile name d = .error f d') : ¬f.Missing := by
  rw [compile_apply] at h
  obtain ⟨cache, -, hresolve⟩ | ⟨g, hresolve⟩ := Config.resolve_of_present hsource hpresent
  · rw [hresolve] at h
    dsimp only at h
    split at h <;> cases h
    exact not_missing_of_compileAnew ‹_›
  · rw [hresolve] at h
    cases h
    exact not_missing_fault g

theorem compile_eq_ok (hd : d.IsTree) (hsource : e.config.sourceOf name = .ok source)
    (hpresent : Present d source) (h : e.compile name d = .ok cache d') :
    e.config.artifactOf name = .ok cache ∧ d.isFile source = .ok true ∧
      ∃ content, e.contentNow d name = .ok content ∧ Replaced cache (Utf8.encode content.toList) d d' := by
  rw [compile_apply] at h
  obtain ⟨cache', hartifact, hresolve⟩ | ⟨g, hresolve⟩ := Config.resolve_of_present hsource hpresent
  · rw [hresolve] at h
    dsimp only at h
    split at h <;> cases h
    rename_i p hanew
    obtain ⟨text, content, htext, hcompile, hcontent, hreplace⟩ := compileAnew_eq_ok hanew
    exact ⟨hartifact, Config.resolve_isFile hresolve, content,
      Coherent.contentNow_eq_ok hresolve htext hcompile hcontent, replace_replaced hd hreplace⟩
  · rw [hresolve] at h
    cases h

theorem contentNow_congr (hsource : e.config.sourceOf name = .ok source) (hfile : d.isFile source = .ok true)
    (hstat : d'.stat source = d.stat source) : e.contentNow d' name = e.contentNow d name := by
  obtain ⟨cache, hcache⟩ := Config.exists_artifactOf hsource
  have hfile' : d'.isFile source = .ok true := by rwa [isFile, holds, hstat]
  have hresolve := Config.resolve_eq_ok.mpr ⟨source, hsource, .inl ⟨hfile, rfl, hcache⟩⟩
  have hresolve' := Config.resolve_eq_ok.mpr ⟨source, hsource, .inl ⟨hfile', rfl, hcache⟩⟩
  have htext : sourceText d' e.config.charset source = sourceText d e.config.charset source := by
    unfold sourceText Disk.read
    rw [hstat]
  unfold contentNow
  rw [hresolve, hresolve']
  simp only [bind, Except.bind, htext]

end Engine

/-! ## All templates -/

theorem mapM_cons_apply {ε σ α β : Type} (f : α → EStateM ε σ β) (a : α) (as : List α) (s : σ) :
    (a :: as).mapM f s = match f a s with
      | .error e s' => .error e s'
      | .ok b s' => match as.mapM f s' with
        | .error e s'' => .error e s''
        | .ok bs s'' => .ok (b :: bs) s'' := by
  rw [List.mapM_cons, EStateM.bind_apply]
  cases f a s with
  | error e s' => rfl
  | ok b s' =>
    dsimp only
    rw [EStateM.bind_apply]
    cases as.mapM f s' <;> rfl

namespace Engine

variable {files todo : List (List String)} {parts : List String} {d₀ : Disk} {paths : List Path}

/-- The file is the artifact of one of the templates, which may share it with others. -/
def HasArtifact (e : Engine) (d₀ : Disk) (files : List (List String)) (d : Disk) (cache : Path) : Prop :=
  ∃ parts ∈ files, ∃ own content t, e.config.artifactOf (e.config.nameOf parts) = .ok own ∧
    d₀.place own = d₀.place cache ∧ e.contentNow d₀ (e.config.nameOf parts) = .ok content ∧
    d.stat cache = .ok (.file (Utf8.encode content.toList) t)

/-- The templates are there, are found by their names, and no artifact takes the place of one of them. -/
structure Listed (e : Engine) (d₀ : Disk) (files : List (List String)) : Prop where
  isTree : d₀.IsTree
  present : ∀ parts ∈ files, Present d₀ (e.config.sourceAt parts)
  found : ∀ parts ∈ files, e.config.sourceOf (e.config.nameOf parts) = .ok (e.config.sourceAt parts)
  apart : ∀ parts ∈ files, ∀ cache bytes d d', e.config.artifactOf (e.config.nameOf parts) = .ok cache →
    d.current = d₀.current → Replaced cache bytes d d' →
    ∀ other ∈ files, d₀.place (e.config.sourceAt other) ≠ d₀.place cache

/-- The templates are still as they were at the start. -/
structure Keeps (e : Engine) (d₀ : Disk) (files : List (List String)) (d : Disk) : Prop where
  isTree : d.IsTree
  current : d.current = d₀.current
  stat : ∀ parts ∈ files, ∀ content t, d₀.stat (e.config.sourceAt parts) = .ok (.file content t) →
    d.stat (e.config.sourceAt parts) = .ok (.file content t)

theorem Listed.keeps (h : e.Listed d₀ files) : e.Keeps d₀ files d₀ := ⟨h.isTree, rfl, fun _ _ _ _ => id⟩

theorem Keeps.present (hkeeps : e.Keeps d₀ files d) (h : e.Listed d₀ files) (hparts : parts ∈ files) :
    Present d (e.config.sourceAt parts) := by
  refine (h.present parts hparts).imp_left fun hfile => ?_
  obtain ⟨content, t, hstat⟩ := isFile_eq_true.mp hfile
  exact isFile_eq_true.mpr ⟨content, t, hkeeps.stat parts hparts content t hstat⟩

/-- Compiling one of the templates stores what it was at the start, and keeps them all. -/
theorem Keeps.compile (hkeeps : e.Keeps d₀ files d) (h : e.Listed d₀ files) (hparts : parts ∈ files)
    (hcompile : e.compile (e.config.nameOf parts) d = .ok cache d') :
    (e.config.artifactOf (e.config.nameOf parts) = .ok cache ∧
      ∃ content, e.contentNow d₀ (e.config.nameOf parts) = .ok content ∧
        Replaced cache (Utf8.encode content.toList) d d') ∧ e.Keeps d₀ files d' := by
  have hfound := h.found parts hparts
  obtain ⟨hcache, hfile, content, hcontent, hreplaced⟩ :=
    compile_eq_ok hkeeps.isTree hfound (hkeeps.present h hparts) hcompile
  have hstart : d₀.isFile (e.config.sourceAt parts) = .ok true := by
    refine (h.present parts hparts).resolve_right fun ⟨hnul, hlong⟩ => ?_
    rw [isFile_of_long hnul hlong] at hfile
    cases hfile
  obtain ⟨bytes, t, hstat⟩ := isFile_eq_true.mp hstart
  have hnow := hkeeps.stat parts hparts bytes t hstat
  refine ⟨⟨hcache, content, ?_, hreplaced⟩, hreplaced.isTree, hreplaced.current.trans hkeeps.current,
    fun other hother bytes t hstat => ?_⟩
  · rw [← hcontent]
    exact (contentNow_congr hfound hstart (hnow.trans hstat.symm)).symm
  · have hplace := h.apart parts hparts cache _ d d' hcache hkeeps.current hreplaced other hother
    rw [hreplaced.stat_file (hkeeps.stat other hother bytes t hstat), place_congr hkeeps.current,
      place_congr hkeeps.current, if_neg hplace]

/-- An artifact stays one of those, whichever of the templates is compiled next. -/
theorem HasArtifact.replaced {p : Path} {content : String} (h : e.HasArtifact d₀ files d p)
    (hparts : parts ∈ files) (hcurrent : d.current = d₀.current)
    (hcache : e.config.artifactOf (e.config.nameOf parts) = .ok cache)
    (hcontent : e.contentNow d₀ (e.config.nameOf parts) = .ok content)
    (hreplaced : Replaced cache (Utf8.encode content.toList) d d') : e.HasArtifact d₀ files d' p := by
  obtain ⟨twin, htwin, own, content', t, hown, hplace, hcontent', hstat⟩ := h
  have hstat' := hreplaced.stat_file hstat
  split_ifs at hstat' with heq
  · rw [place_congr hcurrent, place_congr hcurrent] at heq
    exact ⟨parts, hparts, cache, content, d.now, hcache, heq.symm, hcontent, hstat'⟩
  · exact ⟨twin, htwin, own, content', t, hown, hplace, hcontent', hstat'⟩

theorem Keeps.mapM_compile (hkeeps : e.Keeps d₀ files d) (h : e.Listed d₀ files) (htodo : todo ⊆ files)
    (hcompile : (todo.map e.config.nameOf).mapM e.compile d = .ok paths d') :
    (∀ p, e.HasArtifact d₀ files d p → e.HasArtifact d₀ files d' p) ∧
      List.Forall₂ (fun parts cache => e.config.artifactOf (e.config.nameOf parts) = .ok cache ∧
        (∃ content, e.contentNow d₀ (e.config.nameOf parts) = .ok content) ∧
        e.HasArtifact d₀ files d' cache) todo paths := by
  induction todo generalizing d paths with
  | nil =>
    cases hcompile
    exact ⟨fun _ => id, .nil⟩
  | cons parts todo ih =>
    rw [List.cons_subset] at htodo
    rw [List.map_cons, mapM_cons_apply] at hcompile
    cases hfirst : e.compile (e.config.nameOf parts) d with
    | error f d₁ =>
      rw [hfirst] at hcompile
      cases hcompile
    | ok cache d₁ =>
      rw [hfirst] at hcompile
      dsimp only at hcompile
      split at hcompile <;> cases hcompile
      rename_i paths hrest
      obtain ⟨⟨hcache, content, hcontent, hreplaced⟩, hkeeps₁⟩ := hkeeps.compile h htodo.1 hfirst
      obtain ⟨hlast, hpaths⟩ := ih hkeeps₁ htodo.2 hrest
      have hnew : e.HasArtifact d₀ files d₁ cache :=
        ⟨parts, htodo.1, cache, content, d.now, hcache, rfl, hcontent, hreplaced.stat⟩
      refine ⟨fun p hp => hlast p ?_, .cons ⟨hcache, ⟨content, hcontent⟩, hlast cache hnew⟩ hpaths⟩
      exact hp.replaced htodo.1 hkeeps.current hcache hcontent hreplaced

theorem not_missing_of_mapM (hd : d.IsTree)
    (hfound : ∀ parts ∈ todo, e.config.sourceOf (e.config.nameOf parts) = .ok (e.config.sourceAt parts))
    (hpresent : ∀ parts ∈ todo, Present d (e.config.sourceAt parts))
    (h : (todo.map e.config.nameOf).mapM e.compile d = .error f d') : ¬f.Missing := by
  induction todo generalizing d with
  | nil => cases h
  | cons parts todo ih =>
    rw [List.forall_mem_cons] at hfound hpresent
    rw [List.map_cons, mapM_cons_apply] at h
    cases hfirst : e.compile (e.config.nameOf parts) d with
    | error g d₁ =>
      rw [hfirst] at h
      cases h
      exact not_missing_of_compile hfound.1 hpresent.1 hfirst
    | ok cache d₁ =>
      rw [hfirst] at h
      dsimp only at h
      split at h <;> cases h
      obtain ⟨-, -, content, -, hreplaced⟩ := compile_eq_ok hd hfound.1 hpresent.1 hfirst
      exact ih hreplaced.isTree hfound.2 (fun other hother => (hpresent.2 other hother).replaced hreplaced) ‹_›

end Engine

/-! ## Where artifacts are -/

theorem not_replaced_up {bytes : List UInt8} {anchor : Anchor} {above : List String}
    (h : Replaced ⟨anchor, above ++ [".."]⟩ bytes d d') : False := by
  obtain ⟨r, hr, hfind⟩ := stat_eq_ok.mp h.stat
  have hfollow := (locate_eq_ok.mp hr).2.2
  rw [follow_append] at hfollow
  obtain ⟨q, -, hup⟩ := bind_eq_ok.mp hfollow
  obtain ⟨⟨t, ht⟩, ⟨-, hend⟩ | ⟨hne, -⟩⟩ := follow_cons.mp hup
  · cases hend
    obtain ⟨u, hu⟩ := h.isTree.parent ht
    cases hfind.symm.trans hu
  · exact hne rfl

namespace Config

variable {c : Config} {parts : List String} {bytes : List UInt8} {d₀ : Disk}

theorem artifactOf_eq_ok (hslash : '/' ∉ c.cacheExtension.toList) (h : c.artifactOf name = .ok cache) :
    cache = c.cacheDir ∨ ∃ file, cache = ⟨c.cacheDir.anchor, c.cacheDir.parts ++ [file]⟩ := by
  obtain ⟨plain, hplain, h⟩ := bind_eq_ok.mp h
  have hchild : c.cacheDir.child (flatName plain ++ c.cacheExtension) = cache := Except.ok.inj h
  have hfree : '/' ∉ (flatName plain ++ c.cacheExtension).toList := by
    rw [String.toList_append, List.mem_append, not_or]
    exact ⟨slash_not_mem_flatName plain, hslash⟩
  have hne : (flatName plain ++ c.cacheExtension).toList ≠ [] := by
    rw [String.toList_append, flatName, String.toList_ofList]
    exact List.append_ne_nil_of_left_ne_nil (by simpa using (plainTemplateName_eq_ok hplain).1) _
  rw [← hchild, Path.child_eq _ ((isAbsolute_ofText _).mpr fun hhead => hfree (List.mem_of_head? hhead))]
  by_cases hdot : (flatName plain ++ c.cacheExtension).toList = ['.']
  · rw [hdot]
    exact .inl (by rw [show Path.componentsOf ['.'] = [] from rfl, List.append_nil])
  · rw [Path.componentsOf_of_not_mem hfree hne hdot]
    exact .inr ⟨_, rfl⟩

theorem IsSource.apart (h : c.IsSource d₀ parts) (hnamed : d₀.Named) (hslash : '/' ∉ c.cacheExtension.toList)
    (hdir : d₀.file? (d₀.place c.cacheDir) = none) (hcache : c.artifactOf name = .ok cache)
    (hreplaced : Replaced cache bytes d d') : d₀.place (c.sourceAt parts) ≠ d₀.place cache := by
  have hnames := h.isFileName hnamed
  obtain ⟨-, base, hbase, hfile, hout⟩ := h
  rw [place_sourceAt hnames hbase]
  intro hplace
  obtain rfl | ⟨file, rfl⟩ := artifactOf_eq_ok hslash hcache
  · rw [hplace, hdir] at hfile
    cases hfile
  · have hup : file ≠ ".." := by
      rintro rfl
      exact not_replaced_up hreplaced
    have hbelow : d₀.place ⟨c.cacheDir.anchor, c.cacheDir.parts ++ [file]⟩ = d₀.place c.cacheDir ++ [file] := by
      change climb (d₀.start c.cacheDir) (c.cacheDir.parts ++ [file]) = _
      rw [climb_append, climb, if_neg hup]
      rfl
    rw [hplace, hbelow] at hout
    exact hout ⟨List.prefix_append _ _, by simp⟩

end Config

/-- **Listing, resolving and compiling agree.** On a disk whose files have names that files can have, and with
extensions that stand for themselves in patterns, each file below the directory of templates that has the
extension, and is not below the directory of artifacts, is listed under one name. The name leads back to
the file exactly if something is left of it without the extension, it has no backslash, and its last
component is not two dots. If this holds of all of them, none is missing when they are compiled, and each is
compiled from its own file; those whose artifacts have one place share one of these. -/
theorem Engine.listed_and_compiled (e : Engine) (hd : d.IsTree) (hnamed : d.Named)
    (hplain : NamePattern.IsPlain e.config.extension) (hslash : '/' ∉ e.config.extension.toList)
    (hslash' : '/' ∉ e.config.cacheExtension.toList) (hnul : hasNul e.config.cacheDir = false)
    {there : Bool} (hdir : d.isDirectory e.config.templateDir = .ok there) :
    ∃ files : List (List String), files.Nodup ∧ (∀ parts, parts ∈ files ↔ e.config.IsSource d parts) ∧
      e.config.templates d = .ok (files.map e.config.nameOf) ∧
      (∀ parts ∈ files, e.config.sourceOf (e.config.nameOf parts) = .ok (e.config.sourceAt parts) ↔
        e.config.Addressable parts) ∧
      ((∀ parts ∈ files, e.config.Addressable parts) →
        (∀ f d', e.compileEach d = .error f d' → ¬f.Missing) ∧
        (d.file? (d.place e.config.cacheDir) = none → ∀ paths d', e.compileEach d = .ok paths d' →
          List.Forall₂ (fun parts cache => e.config.artifactOf (e.config.nameOf parts) = .ok cache ∧
            (∃ content, e.contentNow d (e.config.nameOf parts) = .ok content) ∧
            e.HasArtifact d files d' cache) files paths)) := by
  obtain ⟨files, hnodup, hfiles, htemplates⟩ := Config.templates_eq hd hplain hslash hnul hdir
  have hsource {parts : List String} (hparts : parts ∈ files) := (hfiles parts).mp hparts
  have hfound (parts : List String) (hparts : parts ∈ files) :=
    Config.sourceOf_nameOf (hsource hparts).1 ((hsource hparts).isFileName hnamed) hslash
  have heach : e.compileEach d = (files.map e.config.nameOf).mapM e.compile d := by
    unfold compileEach
    rw [EStateM.bind_apply, Work.ask_apply, htemplates]
    rfl
  refine ⟨files, hnodup, hfiles, htemplates, hfound, fun hall => ⟨fun f d' h => ?_, fun hcache paths d' h => ?_⟩⟩
  · rw [heach] at h
    exact not_missing_of_mapM hd (fun parts hparts => (hfound parts hparts).mpr (hall parts hparts))
      (fun parts hparts => (hsource hparts).present hd hnamed) h
  · rw [heach] at h
    have hlisted : e.Listed d files :=
      { isTree := hd
        present := fun parts hparts => (hsource hparts).present hd hnamed
        found := fun parts hparts => (hfound parts hparts).mpr (hall parts hparts)
        apart := fun parts _ cache bytes d₁ d₂ hartifact _ hreplaced other hother =>
          (hsource hother).apart hnamed hslash' hcache hartifact hreplaced }
    exact (hlisted.keeps.mapM_compile hlisted (List.Subset.refl _) h).2

/-- A disk with one file in the directory of templates. -/
def onePage (name : String) : Disk :=
  ⟨[(["views"], .directory 0), (["views", name], .file [] 0)], [], 1⟩

theorem isTree_onePage (name : String) : (onePage name).IsTree := isTree_pair ..

/-- One page is listed, and its artifact is stored. -/
theorem Engine.listed_and_compiled_page :
    let e : Engine := {}
    let d := onePage "page.html"
    let cache : Path := .ofText "views/cache/page.json"
    e.config.templates d = .ok ["page"] ∧
      ∃ d', e.compileEach d = .ok [cache] d' ∧ e.HasArtifact d [["page.html"]] d' cache := by
  intro e d cache
  have hnamed : d.Named := by decide +kernel
  have hdir : d.isDirectory e.config.templateDir = .ok true := by decide +kernel
  have hlist : e.config.templates d = .ok ["page"] := by decide +kernel
  obtain ⟨d', hd'⟩ := exists_of_valueOf
    (show valueOf (e.compileEach d) = some [cache] by decide +kernel)
  obtain ⟨files, -, hfiles, htemplates, -, heach⟩ := listed_and_compiled e (isTree_onePage _) hnamed
    (by decide +kernel) (by decide +kernel) (by decide +kernel) (by decide +kernel) hdir
  have hpage {parts : List String} (h : parts ∈ files) : parts = ["page.html"] := by
    obtain ⟨-, base, hbase, hfile, -⟩ := (hfiles parts).mp h
    obtain rfl : ["views"] = base := Except.ok.inj ((show _ = _ by decide +kernel).symm.trans hbase)
    obtain ⟨⟨bytes, t⟩, hfind⟩ := Option.isSome_iff_exists.mp hfile
    have hentry := mem_entries_of_find? (by simp) (file?_eq_some.mp hfind)
    have hparts : parts = ["page.html"] ∧ bytes = [] ∧ t = 0 := by simpa [d, onePage] using hentry
    exact hparts.1
  have hone : files = [["page.html"]] := by
    have hnames := Except.ok.inj (htemplates.symm.trans hlist)
    obtain ⟨parts, rest, rfl, -, hrest⟩ := List.map_eq_cons_iff.mp hnames
    rw [List.map_eq_nil_iff.mp hrest, hpage List.mem_cons_self]
  subst hone
  obtain ⟨-, hstored⟩ := heach (by decide +kernel)
  have hall := hstored (by decide +kernel) [cache] d' hd'
  rw [List.forall₂_cons] at hall
  exact ⟨hlist, d', hd', hall.1.2.2⟩

/-- **A file that is listed can be missing when all templates are compiled**: without an extension no names
are left, and a name can be empty, climb up, or lead to another file. -/
theorem Engine.exists_listed_missing :
    let missing (name : String) (searched : List Path) : Failure := .error (.notFound name searched)
    (∃ c, Config.ofValue (.dict [(.str "extension", .str "")]) = .ok c ∧
      c.templates (onePage "page.html") = .ok [""] ∧ c.sourceOf "" = .error (missing "" []) ∧
      failureOf (Engine.compileEach ⟨c, .standard⟩ (onePage "page.html")) = some (missing "" [])) ∧
    (Config.templates {} (onePage ".html") = .ok [""] ∧
      failureOf (Engine.compileEach {} (onePage ".html")) = some (missing "" [])) ∧
    (Config.templates {} (onePage "...html") = .ok [".."] ∧
      failureOf (Engine.compileEach {} (onePage "...html")) = some (missing ".." [])) ∧
    Config.templates {} (onePage "a\\b.html") = .ok ["a\\b"] ∧
      Config.sourceOf {} "a\\b" = .ok (.ofText "views/a/b.html") ∧
      failureOf (Engine.compileEach {} (onePage "a\\b.html")) =
        some (missing "a\\b" [.ofText "views/a/b.html", .ofText "views/base.html"]) := by
  intro missing
  refine ⟨⟨{ extension := "" }, rfl, ?_⟩, ?_⟩
  · decide +kernel
  · decide +kernel

end Gabarit
