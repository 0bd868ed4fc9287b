import Gabarit.Proofs.Artifact.Stored
import Gabarit.Proofs.Block.Calls
import Gabarit.Proofs.Block.Link
import Gabarit.Proofs.Disk.Replace

/-!
# Steps of engines

What an engine does with a template, by the questions that it asks the disk.

* `Decodes`, `sourceText_eq_ok`: the text of a source;
* `Loads`, `loadFitting_eq_ok`: the program of an artifact that an engine accepts;
* `eq_stored_of_loads`: the artifact of a compiled program loads as the stored program;
* `compileAnew_apply`, `compileAnew_eq_ok`, `needsCompiling_eq_false`: compiling anew, and when it is not
  needed;
* `program_apply`, `render_apply`: the program and the text of a template, from a disk.
-/

namespace Gabarit

open Artifact

/-! ## Texts of sources -/

/-- The bytes of a source are those of a text. -/
def Decodes (charset : String) (bytes : List UInt8) (text : String) : Prop :=
  ∃ c cs, Charset.ofName? charset = some c ∧ c ≠ .transform ∧ c.decodeFile bytes = .ok cs ∧
    text = String.ofList cs

theorem sourceText_eq_ok {d : Disk} {charset text : String} {source : Path} :
    sourceText d charset source = .ok text ↔
      ∃ bytes, d.read source = .ok bytes ∧ Decodes charset bytes text := by
  rw [sourceText, bind_eq_ok]
  refine exists_congr fun bytes => ?_
  rw [mapError_eq_ok]
  refine and_congr_right fun _ => ⟨fun h => ?_, ?_⟩
  · split at h
    · cases h
    · cases h
    · rename_i c hne hcharset
      split at h
      · rename_i cs hcs
        cases h
        exact ⟨c, cs, hcharset, hne, hcs, rfl⟩
      · cases h
      · cases h
  · rintro ⟨c, cs, hcharset, hne, hcs, rfl⟩
    rw [hcharset]
    cases c with
    | transform => exact absurd rfl hne
    | _ =>
      dsimp only
      rw [hcs]
      rfl

/-! ## Programs of artifacts -/

/-- The bytes are those of an artifact of this version, whose blocks pair up. -/
def Loads (bytes : List UInt8) (p : Program) : Prop :=
  Program.decode bytes = .ok p ∧ p.version = layoutVersion ∧ p.problem? = none

theorem loadArtifact_eq_ok {d : Disk} {cache : Path} {p : Program} :
    loadArtifact d cache = .ok p ↔ ∃ bytes, d.read cache = .ok bytes ∧ Loads bytes p := by
  rw [loadArtifact]
  dsimp only
  rw [bind_eq_ok]
  refine exists_congr fun bytes => ?_
  rw [mapError_eq_ok, bind_eq_ok, Loads]
  refine and_congr_right fun _ => ⟨?_, ?_⟩
  · rintro ⟨q, hq, h⟩
    rw [mapError_eq_ok] at hq
    split_ifs at h with hversion
    · cases h
    · split at h
      · cases h
      · rename_i hproblem
        cases h
        exact ⟨hq, not_not.mp hversion, hproblem⟩
  · rintro ⟨hq, hversion, hproblem⟩
    refine ⟨p, mapError_eq_ok.mpr hq, ?_⟩
    rw [if_neg (not_not.mpr hversion), hproblem]
    rfl

theorem loadFitting_eq_ok {e : Engine} {d : Disk} {cache : Path} {p : Program} :
    e.loadFitting d cache = .ok p ↔
      (∃ bytes, d.read cache = .ok bytes ∧ Loads bytes p) ∧ ∀ c ∈ p.calls, e.filters.check c = .ok () := by
  rw [Engine.loadFitting, bind_eq_ok, ← checkCalls_eq_ok]
  constructor
  · rintro ⟨q, hq, h⟩
    obtain ⟨⟨⟩, hcheck, h⟩ := bind_eq_ok.mp h
    cases h
    exact ⟨loadArtifact_eq_ok.mp hq, hcheck⟩
  · rintro ⟨hq, hcheck⟩
    exact ⟨p, loadArtifact_eq_ok.mpr hq, bind_eq_ok.mpr ⟨(), hcheck, rfl⟩⟩

variable {filters : Registry} {source text : String} {name : Option String} {p : Program}

theorem compile_version (h : compile filters source name = .ok p) : p.version = layoutVersion := by
  obtain ⟨t, -, rfl⟩ := compile_eq_ok_iff.mp h
  rfl

theorem compile_problem? (h : compile filters source name = .ok p) : p.problem? = none := by
  obtain ⟨t, hread, rfl⟩ := compile_eq_ok_iff.mp h
  exact Linked.problem?_eq_none (by simpa using linked_tree t 0) hread.unlinked

/-- What an artifact of a compiled program loads as. -/
theorem eq_stored_of_loads {q : Program} (htext : p.encode = .ok text)
    (h : Loads (Utf8.encode text.toList) q) : q = p.stored := by
  obtain herror | hok := Program.decode_encode_keeps htext
  · rw [Loads, herror] at h
    cases h.1
  · exact Except.ok.inj (h.1.symm.trans hok)

theorem Program.calls_stored (p : Program) : p.stored.calls = p.calls.map FilterCall.stored := by
  rw [calls, calls, stored, Array.toList_map, List.flatMap_map, List.map_flatMap]
  refine congrArg (p.nodes.toList.flatMap ·) (funext fun node => ?_)
  cases node <;> rfl

/-- The stored call is accepted like the call itself: only its name, its slot and the number of its
arguments count. -/
theorem Registry.check_stored (r : Registry) (c : FilterCall) : r.check c.stored = r.check c := by
  rw [check_eq, check_eq, FilterCall.stored]
  simp only [List.length_map]

theorem Program.checks_stored (p : Program) (r : Registry) :
    (∀ c ∈ p.stored.calls, r.check c = .ok ()) ↔ ∀ c ∈ p.calls, r.check c = .ok () := by
  rw [calls_stored, List.forall_mem_map]
  simp only [Registry.check_stored]

/-- An engine accepts the artifact of a program that it compiles, unless this has an integer that is too
long. -/
theorem loadFitting_encode {e : Engine} {d : Disk} {cache : Path} {content : String}
    (hcompile : compile e.filters source name = .ok p) (hcontent : p.encode = .ok content)
    (hread : d.read cache = .ok (Utf8.encode content.toList)) : e.loadFitting d cache =
      if ∀ n ∈ p.integers, Short n then .ok p.stored
      else .error (.error (.badArtifact cache .content)) := by
  have hdecode := Program.decode_encode_short hcontent
  split_ifs with hshort
  · rw [if_pos hshort] at hdecode
    have hversion : p.version = layoutVersion := compile_version hcompile
    refine loadFitting_eq_ok.mpr ⟨⟨_, hread, hdecode, hversion, ?_⟩,
      (p.checks_stored e.filters).mpr (compile_checks hcompile)⟩
    rw [Program.problem?_stored, compile_problem? hcompile]
  · rw [if_neg hshort] at hdecode
    rw [Engine.loadFitting, loadArtifact, hread]
    simp only [Except.mapError, bind, Except.bind, hdecode]
    rfl

/-! ## Steps -/

section Steps

variable (e : Engine) (d : Disk) (source cache : Path)

theorem Work.ofExcept_apply {α : Type} (r : Except Failure α) : Work.ofExcept r d = match r with
    | .ok a => .ok a d
    | .error f => .error f d := by
  cases r <;> rfl

theorem Work.ask_apply {α : Type} (question : Disk → Except Failure α) :
    Work.ask question d = match question d with
      | .ok a => .ok a d
      | .error f => .error f d := by
  rw [Work.ask, EStateM.bind_apply, EStateM.get_apply]
  exact Work.ofExcept_apply d (question d)

theorem Work.ofExcept_eq_ok {α : Type} {r : Except Failure α} {d d' : Disk} {a : α} :
    Work.ofExcept r d = .ok a d' ↔ r = .ok a ∧ d' = d := by
  rw [Work.ofExcept_apply]
  cases r <;> simp [eq_comm]

theorem Work.ask_eq_ok {α : Type} {question : Disk → Except Failure α} {d d' : Disk} {a : α} :
    Work.ask question d = .ok a d' ↔ question d = .ok a ∧ d' = d := by
  rw [Work.ask_apply]
  cases question d <;> simp [eq_comm]

@[simp] theorem Work.stateAfter_ask {α : Type} (question : Disk → Except Failure α) :
    stateAfter (Work.ask question d) = d := by
  rw [Work.ask_apply]
  cases question d <;> rfl

@[simp] theorem Work.stateAfter_ofExcept {α : Type} (r : Except Failure α) :
    stateAfter (Work.ofExcept r d) = d := by
  cases r <;> rfl

theorem storeArtifact_apply (p : Program) : storeArtifact cache p d = match p.encode with
    | .error f => .error (.fault f) d
    | .ok text => match Disk.replace cache (Utf8.encode text.toList) d with
      | .ok () d' => .ok () d'
      | .error f d' => .error (fileFailure (.unwritable cache) f) d' := by
  rw [storeArtifact, EStateM.bind_apply, Work.ofExcept_apply]
  cases p.encode with
  | error f => rfl
  | ok text =>
    change EStateM.adaptExcept _ _ d = _
    unfold EStateM.adaptExcept
    dsimp only [Except.mapError]
    cases Disk.replace cache (Utf8.encode text.toList) d <;> rfl

theorem compileAnew_apply : e.compileAnew source cache d =
    match sourceText d e.config.charset source with
      | .error f => .error f d
      | .ok text => match compile e.filters text source.text with
        | .error f => .error f d
        | .ok p => match storeArtifact cache p d with
          | .error f d' => .error f d'
          | .ok () d' => .ok p d' := by
  rw [Engine.compileAnew, EStateM.bind_apply, Work.ask_apply]
  cases sourceText d e.config.charset source with
  | error f => rfl
  | ok text =>
    dsimp only
    rw [EStateM.bind_apply, Work.ofExcept_apply]
    cases compile e.filters text source.text with
    | error f => rfl
    | ok p =>
      dsimp only
      rw [EStateM.bind_apply]
      cases storeArtifact cache p d <;> rfl

theorem storeArtifact_eq_ok {d d' : Disk} {cache : Path} {p : Program} {a : Unit}
    (h : storeArtifact cache p d = .ok a d') : ∃ content, p.encode = .ok content ∧
      Disk.replace cache (Utf8.encode content.toList) d = .ok () d' := by
  rw [storeArtifact_apply] at h
  split at h
  · cases h
  · rename_i content hcontent
    split at h
    · rename_i hreplace
      cases h
      exact ⟨content, hcontent, hreplace⟩
    · cases h

theorem compileAnew_eq_ok {e : Engine} {d d' : Disk} {source cache : Path} {p : Program}
    (h : e.compileAnew source cache d = .ok p d') :
    ∃ text content, sourceText d e.config.charset source = .ok text ∧
      Gabarit.compile e.filters text source.text = .ok p ∧ p.encode = .ok content ∧
      Disk.replace cache (Utf8.encode content.toList) d = .ok () d' := by
  unfold Engine.compileAnew at h
  rw [EStateM.bind_eq_ok] at h
  obtain ⟨text, d₁, htext, h⟩ := h
  rw [EStateM.bind_eq_ok] at h
  obtain ⟨q, d₂, hcompile, h⟩ := h
  rw [EStateM.bind_eq_ok] at h
  obtain ⟨_, d₃, hstore, h⟩ := h
  cases h
  obtain ⟨htext, rfl⟩ := Work.ask_eq_ok.mp htext
  obtain ⟨hcompiled, rfl⟩ := Work.ofExcept_eq_ok.mp hcompile
  obtain ⟨content, hcontent, hreplace⟩ := storeArtifact_eq_ok hstore
  exact ⟨text, content, htext, hcompiled, hcontent, hreplace⟩

/-- An artifact is used only if it is not older than its source. -/
theorem needsCompiling_eq_false {d : Disk} {source cache : Path} (h : needsCompiling d source cache = .ok false) :
    ∃ a b, d.stat cache = .ok a ∧ d.stat source = .ok b ∧ b.time ≤ a.time := by
  unfold needsCompiling at h
  cases hcache : d.stat cache with
  | error f => cases f <;> simp [hcache] at h
  | ok a =>
    cases hsource : d.stat source with
    | error f => simp [hcache, hsource] at h
    | ok b =>
      simp only [hcache, hsource, Except.ok.injEq, decide_eq_false_iff_not, not_lt] at h
      exact ⟨a, b, rfl, rfl, h⟩

theorem program_apply (name : String) : e.program name d = match e.config.resolve d name with
    | .error f => .error f d
    | .ok (source, cache) => match needsCompiling d source cache with
      | .error f => .error f d
      | .ok true => e.compileAnew source cache d
      | .ok false => match e.loadFitting d cache with
        | .ok p => .ok p d
        | .error f => if Engine.callsForCompiling f then e.compileAnew source cache d else .error f d := by
  rw [Engine.program, EStateM.bind_apply, Work.ask_apply]
  cases e.config.resolve d name with
  | error f => rfl
  | ok paths =>
    obtain ⟨source, cache⟩ := paths
    dsimp only
    rw [EStateM.bind_apply, Work.ask_apply]
    cases needsCompiling d source cache with
    | error f => rfl
    | ok stale =>
      cases stale with
      | true => rfl
      | false =>
        simp only [Bool.false_eq_true, if_false]
        rw [EStateM.bind_apply, EStateM.get_apply]
        dsimp only
        cases e.loadFitting d cache with
        | ok p => rfl
        | error f =>
          dsimp only
          split_ifs <;> rfl

/-- A program is that of an artifact that is up to date and fits, or was compiled anew. -/
theorem program_eq_ok {e : Engine} {d d' : Disk} {name : String} {p : Program}
    (h : e.program name d = .ok p d') : ∃ source cache, e.config.resolve d name = .ok (source, cache) ∧
      (needsCompiling d source cache = .ok false ∧ e.loadFitting d cache = .ok p ∧ d' = d ∨
        e.compileAnew source cache d = .ok p d') := by
  rw [program_apply] at h
  cases hresolve : e.config.resolve d name with
  | error f =>
    rw [hresolve] at h
    cases h
  | ok paths =>
    obtain ⟨source, cache⟩ := paths
    refine ⟨source, cache, rfl, ?_⟩
    rw [hresolve] at h
    dsimp only at h
    cases hneeds : needsCompiling d source cache with
    | error f =>
      rw [hneeds] at h
      cases h
    | ok stale =>
      rw [hneeds] at h
      cases stale with
      | true => exact .inr h
      | false =>
        dsimp only at h
        cases hload : e.loadFitting d cache with
        | ok q =>
          rw [hload] at h
          cases h
          exact .inl ⟨rfl, rfl, rfl⟩
        | error f =>
          rw [hload] at h
          dsimp only at h
          split_ifs at h
          exact .inr h

theorem program_checks {e : Engine} {d d' : Disk} {name : String} {p : Program}
    (h : e.program name d = .ok p d') : ∀ c ∈ p.calls, e.filters.check c = .ok () := by
  obtain ⟨source, cache, -, ⟨-, hload, -⟩ | hanew⟩ := program_eq_ok h
  · exact (loadFitting_eq_ok.mp hload).2
  · obtain ⟨text, content, -, hcompile, -⟩ := compileAnew_eq_ok hanew
    exact compile_checks hcompile

theorem render_apply (name : String) (data : Value) (cursors : Cursors) :
    e.render name data cursors d = match e.program name d with
      | .error f d' => .error f d'
      | .ok p d' => match e.renderer.render p data cursors with
        | .ok text => .ok text d'
        | .error f => .error f d' := by
  rw [Engine.render, EStateM.bind_apply]
  cases e.program name d with
  | error f d' => rfl
  | ok p d' =>
    dsimp only
    rw [Work.ofExcept_apply]
    cases e.renderer.render p data cursors <;> rfl

theorem stateAfter_render (name : String) (data : Value) (cursors : Cursors) :
    stateAfter (e.render name data cursors d) = stateAfter (e.program name d) := by
  rw [render_apply]
  cases e.program name d with
  | error f d' => rfl
  | ok p d' =>
    dsimp only
    cases e.renderer.render p data cursors <;> rfl

end Steps

end Gabarit
