import Gabarit.Proofs.Charset.Utf8
import Gabarit.Proofs.Engine.Coherent
import Gabarit.Proofs.Engine.Registries

/-!
# Artifacts that stay in use

* `needsCompiling_congr`, `loadFitting_congr`: what is asked of a source and an artifact, on disks where
  these are alike;
* `Engine.Settled`: the program of a source is in its artifact, which is not older;
* `program_settled`: so it is after a program was given;
* `Engine.Unchanged`: source and artifact are as they were;
* **`program_warm`**: the artifact is used from then on, if the program has no integer that is too long;
* `program_singleTemplate`, `program_not_warm`: a disk with one template, and artifacts that are not used.
-/

namespace Gabarit

open Disk Artifact

variable {e : Engine} {d d' later : Disk} {name : String} {source cache : Path} {p : Program}

/-! ## Disks with the same source and artifact -/

theorem read_congr {q : Path} (h : later.stat q = d.stat q) : later.read q = d.read q := by
  rw [Disk.read, Disk.read, h]

theorem needsCompiling_congr (hsource : later.stat source = d.stat source)
    (hcache : later.stat cache = d.stat cache) :
    needsCompiling later source cache = needsCompiling d source cache := by
  rw [needsCompiling, needsCompiling, hsource, hcache]

theorem loadFitting_congr (hcache : later.stat cache = d.stat cache) :
    e.loadFitting later cache = e.loadFitting d cache := by
  rw [Engine.loadFitting, Engine.loadFitting, loadArtifact, loadArtifact, read_congr hcache]

/-! ## After a program was given -/

/-- The artifact is that of a program, and not older than the source. -/
structure Engine.Settled (e : Engine) (d : Disk) (source cache : Path) (p : Program) : Prop where
  fresh : needsCompiling d source cache = .ok false
  loads : e.loadFitting d cache =
    if ∀ n ∈ p.integers, Short n then .ok p.stored else .error (.error (.badArtifact cache .content))
  isFile : d.isFile source = .ok true
  writes : ∃ content, p.encode = .ok content

theorem program_settled (hd : d.IsTree) (hresolve : e.config.resolve d name = .ok (source, cache))
    {x : Entry} (hsource : d.stat source = .ok x) (htime : x.time ≤ d.now)
    (h : e.program name d = .ok p d') : e.Settled d' source cache p := by
  obtain ⟨source', cache', hresolve', hp⟩ := program_eq_ok h
  cases hresolve.symm.trans hresolve'
  have hfile := Config.resolve_isFile hresolve
  obtain ⟨hneeds, hload, rfl⟩ | hanew := hp
  · -- what was read from an artifact is kept by one
    obtain ⟨⟨bytes, -, hdecode, -⟩, -⟩ := loadFitting_eq_ok.mp hload
    have hstorable := Program.storable_iff_keep.mpr (Program.keep_of_decode hdecode)
    refine ⟨hneeds, ?_, hfile, hstorable.exists_encode⟩
    rw [hload, if_pos hstorable.short, Program.stored_eq_self.mpr hstorable.finite]
  · obtain ⟨text, content, -, hcompile, hcontent, hreplace⟩ := compileAnew_eq_ok hanew
    have hreplaced := replace_replaced hd hreplace
    obtain ⟨bytes, t, hstat⟩ := isFile_eq_true.mp hfile
    cases hsource.symm.trans hstat
    have hsource' := hreplaced.stat_file hstat
    refine ⟨?_, loadFitting_encode hcompile hcontent (read_eq_ok.mpr ⟨d.now, hreplaced.stat⟩), ?_,
      content, hcontent⟩
    · rw [needsCompiling, hreplaced.stat, hsource']
      refine congrArg Except.ok (decide_eq_false (not_lt.mpr ?_))
      split_ifs
      · exact le_rfl
      · exact htime
    · refine isFile_eq_true.mpr ?_
      split_ifs at hsource'
      · exact ⟨_, _, hsource'⟩
      · exact ⟨_, _, hsource'⟩

/-! ## From then on -/

/-- Source and artifact are as they were after a program was given, and a source that gave way to the usual
one is still missing. -/
structure Engine.Unchanged (e : Engine) (name : String) (source cache : Path) (d d' later : Disk) :
    Prop where
  source : later.stat source = d'.stat source
  artifact : later.stat cache = d'.stat cache
  missing : ∀ own, e.config.sourceOf name = .ok own → d.isFile own = .ok false →
    later.isFile own = .ok false

theorem resolve_unchanged (hresolve : e.config.resolve d name = .ok (source, cache))
    (hfile : d'.isFile source = .ok true) (h : e.Unchanged name source cache d d' later) :
    e.config.resolve later name = .ok (source, cache) := by
  have hlater : later.isFile source = .ok true := by
    rw [isFile, holds, h.source]
    exact hfile
  obtain ⟨own, hown, ⟨-, rfl, hcache⟩ | ⟨hmissing, husual, -, hcache⟩⟩ := Config.resolve_eq_ok.mp hresolve
  · exact Config.resolve_eq_ok.mpr ⟨source, hown, .inl ⟨hlater, rfl, hcache⟩⟩
  · exact Config.resolve_eq_ok.mpr
      ⟨own, hown, .inr ⟨h.missing own hown hmissing, husual, hlater, hcache⟩⟩

/-- **A program that was given is found in its artifact from then on**, by an engine with the same filters
and the same configuration, as long as source and artifact are not changed: the artifact is not older, it
is accepted, and nothing is written. Only an integer that is too long keeps it from being read. -/
theorem program_warm (hd : d.IsTree) (hresolve : e.config.resolve d name = .ok (source, cache))
    {x : Entry} (hsource : d.stat source = .ok x) (htime : x.time ≤ d.now)
    (h : e.program name d = .ok p d') (hlater : e.Unchanged name source cache d d' later) :
    needsCompiling later source cache = .ok false ∧
    ((∀ n ∈ p.integers, Short n) → e.loadFitting later cache = .ok p.stored ∧
      e.program name later = .ok p.stored later ∧
      ∃ content, p.encode = .ok content ∧ p.stored.encode = .ok content) ∧
    ((¬∀ n ∈ p.integers, Short n) →
      e.loadFitting later cache = .error (.error (.badArtifact cache .content))) := by
  have hsettled := program_settled hd hresolve hsource htime h
  have hfresh : needsCompiling later source cache = .ok false :=
    (needsCompiling_congr hlater.source hlater.artifact).trans hsettled.fresh
  have hload := (loadFitting_congr hlater.artifact).trans hsettled.loads
  refine ⟨hfresh, fun hshort => ?_, fun hlong => by rw [hload, if_neg hlong]⟩
  rw [if_pos hshort] at hload
  obtain ⟨content, hcontent⟩ := hsettled.writes
  refine ⟨hload, ?_, content, hcontent, by rw [Program.encode_stored, hcontent]⟩
  rw [program_apply, resolve_unchanged hresolve hsettled.isFile hlater]
  dsimp only
  rw [hfresh]
  dsimp only
  rw [hload]

/-- A disk with one template. -/
def singleTemplate (text : List UInt8) : Disk :=
  ⟨[(["views"], .directory 0), (["views", "x.html"], .file text 0)], [], 1⟩

theorem isTree_singleTemplate (text : List UInt8) : (singleTemplate text).IsTree := isTree_pair ..

theorem resolve_singleTemplate (text : List UInt8) : Config.resolve {} (singleTemplate text) "x" =
    .ok (.ofText "views/x.html", .ofText "views/cache/x.json") := rfl

theorem stat_singleTemplate (text : List UInt8) :
    (singleTemplate text).stat (.ofText "views/x.html") = .ok (.file text 0) := rfl

theorem unchanged_singleTemplate (text : List UInt8) (d' : Disk) (t : ℤ) :
    Engine.Unchanged {} "x" (.ofText "views/x.html") (.ofText "views/cache/x.json")
      (singleTemplate text) d' (d'.at t) where
  source := stat_at d' t _
  artifact := stat_at d' t _
  missing own hown hmissing := by
    have hsource : Config.sourceOf {} "x" = .ok (.ofText "views/x.html") := rfl
    obtain rfl : Path.ofText "views/x.html" = own := Except.ok.inj (hsource.symm.trans hown)
    rw [Config.resolve_isFile (resolve_singleTemplate text)] at hmissing
    cases hmissing

/-- The template is found in its artifact at a later time. -/
theorem program_warm_single :
    let d : Disk := singleTemplate (Utf8.encode "hi".toList)
    let p : Program := ⟨#[.text "hi"], 1⟩
    ∃ d', Engine.program {} "x" d = .ok p d' ∧ Engine.program {} "x" (d'.at 5) = .ok p (d'.at 5) := by
  intro d p
  have hshort : ∀ n ∈ p.integers, Short n := by
    have hintegers : p.integers = [1] := rfl
    rw [hintegers, List.forall_mem_singleton]
    decide
  have hstored : p.stored = p :=
    Program.stored_eq_self.mpr (by simp [p, Program.Finite, Node.literals])
  have hvalue : valueOf (Engine.program {} "x" d) = some p := by
    unfold d p
    decide +kernel
  obtain ⟨d', hprogram⟩ := exists_of_valueOf hvalue
  have hagain := ((program_warm (e := {}) (isTree_singleTemplate _) (resolve_singleTemplate _)
    (stat_singleTemplate _) zero_le_one hprogram (unchanged_singleTemplate _ _ 5)).2.1 hshort).2.1
  rw [hstored] at hagain
  exact ⟨d', hprogram, hagain⟩

/-! ## Artifacts that fall out of use -/

theorem sourceText_encode {charset text : String} (hcharset : Charset.ofName? charset = some (.utf8 false))
    (htext : '\r' ∉ text.toList) (hread : d.read source = .ok (Utf8.encode text.toList)) :
    sourceText d charset source = .ok text :=
  sourceText_eq_ok.mpr ⟨_, hread, .utf8 false, text.toList, hcharset, nofun,
    Charset.decodeFile_encode htext, String.ofList_toList.symm⟩

theorem exists_replace_singleTemplate (text bytes : List UInt8) :
    ∃ d', replace (.ofText "views/cache/x.json") bytes (singleTemplate text) = .ok () d' := by
  let made : Disk := ⟨[(["views", "cache"], .directory directoryTime), (["views"], .directory 0),
    (["views", "x.html"], .file text 0)], [], 1⟩
  have hmake : makeDirectories (Path.ofText "views/cache/x.json").parent (singleTemplate text) =
      .ok () made := rfl
  have hname : (Path.ofText "views/cache/x.json").name = "x.json" := by decide +kernel
  have htemporary : temporaryName "x.json" 0 = ".x.json.00000000" := by decide +kernel
  have hfree : ¬Taken made (Path.ofText "views/cache/x.json").parent "x.json" 0 := by
    rw [Taken, htemporary]
    rintro ⟨x, hx⟩
    cases hx
  rw [replace_apply, hmake]
  dsimp only
  rw [replaceBeside_apply, hname, freshName_eq hfree (fun j hj => absurd hj j.not_lt_zero), htemporary]
  exact ⟨_, rfl⟩

theorem program_singleTemplate {text content : String} (htext : '\r' ∉ text.toList)
    (hcompile : compile .standard text "views/x.html" = .ok p) (hcontent : p.encode = .ok content) :
    ∃ d', Engine.program {} "x" (singleTemplate (Utf8.encode text.toList)) = .ok p d' ∧
      d'.read (.ofText "views/cache/x.json") = .ok (Utf8.encode content.toList) := by
  obtain ⟨d', hreplace⟩ := exists_replace_singleTemplate (Utf8.encode text.toList) (Utf8.encode content.toList)
  have hread := (replace_replaced (isTree_singleTemplate _) hreplace).stat
  refine ⟨d', ?_, read_eq_ok.mpr ⟨_, hread⟩⟩
  have hcharset : Charset.ofName? "UTF-8" = some (.utf8 false) := by decide +kernel
  have hdecoded : sourceText (singleTemplate (Utf8.encode text.toList)) "UTF-8"
      (.ofText "views/x.html") = .ok text := sourceText_encode hcharset htext rfl
  have hneeds : needsCompiling (singleTemplate (Utf8.encode text.toList)) (.ofText "views/x.html")
      (.ofText "views/cache/x.json") = .ok true := rfl
  have hname : (Path.ofText "views/x.html").text = "views/x.html" := by decide +kernel
  rw [program_apply]
  dsimp only
  rw [resolve_singleTemplate]
  dsimp only
  rw [hneeds]
  dsimp only
  rw [compileAnew_apply]
  dsimp only
  rw [hdecoded]
  dsimp only
  rw [hname, hcompile]
  dsimp only
  rw [storeArtifact_apply, hcontent]
  dsimp only
  rw [hreplace]

/-- The directories that are made for an artifact can bring another source to light; and the artifact of a
program with an integer that is too long is refused. -/
theorem program_not_warm :
    (let e : Engine := { config :=
       { templateDir := .ofText "v", cacheDir := .ofText "v/q/a.", extension := "./../b.html" } }
     let d : Disk := ⟨[(["v"], .directory 0), (["v", "base."], .directory 0), (["v", "q"], .directory 0),
      (["v", "b.html"], .file (Utf8.encode "one".toList) 0),
      (["v", "q", "b.html"], .file (Utf8.encode "two".toList) 0)], [], 1⟩
     valueOf (e.program "q/a" d) = some ⟨#[.text "one"], 1⟩ ∧
      valueOf (e.program "q/a" (stateAfter (e.program "q/a" d))) = some ⟨#[.text "two"], 1⟩) ∧
    ∃ d', Engine.program {} "x" (singleTemplate (Utf8.encode overlongTemplate.toList)) =
        .ok overlongProgram d' ∧
      ∀ q, Engine.loadFitting {} d' (.ofText "views/cache/x.json") ≠ .ok q := by
  refine ⟨by decide +kernel, ?_⟩
  obtain ⟨content, hcontent, -⟩ := encode_overlong (p := overlongProgram) rfl whole_overlongProgram
  have hcompile := compile_overlongTemplate .standard (some "views/x.html")
  obtain ⟨d', hprogram, hread⟩ := program_singleTemplate not_mem_overlongTemplate hcompile hcontent
  refine ⟨d', hprogram, fun q => ?_⟩
  rw [loadFitting_encode (e := {}) hcompile hcontent hread, if_neg]
  · exact nofun
  · exact fun hshort => not_short_overlong (hshort _ List.mem_cons_self)

end Gabarit
