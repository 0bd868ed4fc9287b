import Gabarit.Proofs.Artifact.Faults
import Gabarit.Proofs.Engine.Again

/-!
# Artifacts with any content

What an engine does with an artifact, whatever bytes it holds.

* `ArtifactFault.Escapes`: the faults of decoding that are no errors of the engine, and what of the content is
  behind each;
* `LoadFails`, `loadArtifact_ends`: an artifact is accepted or refused, or lets such a fault through;
* `ContentFault`: these faults, and that of a filter call without a slot;
* **`Engine.program_of_content`**: a template that compiles has its program, unless such a fault comes up;
* `Engine.exists_program_of_text`: with a text of few brackets, whose filter calls have slots, none does;
* `Engine.exists_content_fault`: with others one does.
-/

namespace Gabarit

open Disk Artifact

/-- A fault of decoding that is no error of the engine: a text in the content has bytes that are no
characters, or the content opens as many brackets as values may nest deep. -/
inductive ArtifactFault.Escapes (bytes : List UInt8) : ArtifactFault → Prop
  | badText : none ∈ Utf8.symbols bytes → Escapes bytes .badText
  | tooDeep : nestingLimit ≤ brackets (Utf8.symbols bytes) → Escapes bytes .tooDeep

theorem ArtifactFault.not_escapes_encode {cs : List Char} (hfew : brackets (cs.map some) < nestingLimit)
    (f : ArtifactFault) : ¬f.Escapes (Utf8.encode cs) := by
  rintro (hmem | hmany)
  · rw [Utf8.symbols_encode] at hmem
    simp at hmem
  · rw [Utf8.symbols_encode] at hmany
    exact absurd hmany (Nat.not_le.mpr hfew)

/-- How loading an artifact fails: it is refused, or a fault of its content is let through. -/
inductive LoadFails (cache : Path) (bytes : List UInt8) : Failure → Prop
  | refused (q : ArtifactProblem) : LoadFails cache bytes (.error (.badArtifact cache q))
  | escaped {f : ArtifactFault} : Program.decode bytes = .error f → f.Escapes bytes →
    LoadFails cache bytes (.fault (.artifact f))

variable {e : Engine} {d d' : Disk} {source cache : Path} {bytes : List UInt8}

theorem decode_ends (cache : Path) (bytes : List UInt8) :
    EndsWith (LoadFails cache bytes) (Program.decode bytes = .ok ·)
      ((Program.decode bytes).mapError (contentFailure cache)) := by
  cases hdecode : Program.decode bytes with
  | ok p => exact .ok rfl
  | error f =>
    have hfounded := Program.founded_of_decode hdecode
    cases f with
    | notJson | wrongShape => exact .error (.refused _)
    | badText => exact .error (.escaped hdecode (.badText hfounded))
    | tooDeep => exact .error (.escaped hdecode (.tooDeep hfounded))

theorem loadArtifact_ends (hread : d.read cache = .ok bytes) :
    EndsWith (LoadFails cache bytes)
      (fun p => Program.decode bytes = .ok p ∧ p.version = layoutVersion ∧ p.problem? = none)
      (loadArtifact d cache) := by
  rw [loadArtifact, hread]
  change EndsWith _ _ ((Program.decode bytes).mapError (contentFailure cache) >>= _)
  refine (decode_ends cache bytes).bind fun p hdecode => ?_
  dsimp only
  by_cases hversion : p.version = layoutVersion
  · rw [if_neg (not_not.mpr hversion)]
    cases hproblem : p.problem? with
    | none => exact .ok ⟨hdecode, hversion, hproblem⟩
    | some q => exact .error (.refused q)
  · rw [if_pos hversion]
    exact .error (.refused _)

/-- A fault that the content of an artifact lets through: one of decoding it, or of a filter call in it whose
slot is beyond all lists. -/
inductive ContentFault (bytes : List UInt8) : Fault → Prop
  | decoding {f : ArtifactFault} : Program.decode bytes = .error f → f.Escapes bytes →
    ContentFault bytes (.artifact f)
  | slot {p : Program} {c : FilterCall} : Program.decode bytes = .ok p → c ∈ p.calls → ¬c.HasSlot →
    ContentFault bytes .lengthRange

theorem loadFitting_ends (hread : d.read cache = .ok bytes) :
    EndsWith (fun f => Engine.callsForCompiling f = true ∨ ∃ g, f = .fault g ∧ ContentFault bytes g)
      (fun _ => True) (e.loadFitting d cache) := by
  refine ((loadArtifact_ends hread).mono (fun f hf => ?_) fun _ h => h).bind fun p hp => ?_
  · cases hf with
    | refused q => exact .inl rfl
    | escaped hdecode hescapes => exact .inr ⟨_, rfl, .decoding hdecode hescapes⟩
  · rw [checkCalls_eq]
    cases hcheck : e.filters.checkAll p.calls with
    | ok _ => exact .ok trivial
    | error f =>
      obtain ⟨token, cause, rfl⟩ | ⟨⟨c, hc, hslot⟩, rfl⟩ := Registry.checkAll_eq_error hcheck
      · exact .error (.inl rfl)
      · exact .error (.inr ⟨_, rfl, .slot hp.1 hc hslot⟩)

theorem needsCompiling_of_read {content : List UInt8} (hcache : d.read cache = .ok bytes)
    (hsource : d.read source = .ok content) : ∃ stale, needsCompiling d source cache = .ok stale := by
  obtain ⟨t, hcache⟩ := read_eq_ok.mp hcache
  obtain ⟨u, hsource⟩ := read_eq_ok.mp hsource
  exact ⟨_, by rw [needsCompiling, hcache, hsource]⟩

theorem program_of_read {name text : String} {p : Program} (hread : d.read cache = .ok bytes)
    (hresolve : e.config.resolve d name = .ok (source, cache))
    (htext : sourceText d e.config.charset source = .ok text)
    (hcompile : Gabarit.compile e.filters text source.text = .ok p)
    (hstore : storeArtifact cache p d = .ok () d') :
    (∃ q, e.loadFitting d cache = .ok q ∧ e.program name d = .ok q d) ∨
    e.program name d = .ok p d' ∨
    ∃ f, ContentFault bytes f ∧ e.program name d = .error (.fault f) d := by
  have hanew : e.compileAnew source cache d = .ok p d' := by
    rw [compileAnew_of_compile cache htext hcompile, hstore]
  obtain ⟨content, hcontent, -⟩ := sourceText_eq_ok.mp htext
  obtain ⟨stale, hstale⟩ := needsCompiling_of_read hread hcontent
  rw [program_apply, hresolve]
  dsimp only
  rw [hstale]
  cases stale with
  | true => exact .inr (.inl hanew)
  | false =>
    dsimp only
    cases hload : e.loadFitting d cache with
    | ok q => exact .inl ⟨q, rfl, rfl⟩
    | error f =>
      refine .inr ?_
      obtain hcalls | ⟨g, rfl, hg⟩ := (loadFitting_ends hread).error_of hload
      · exact .inl ((if_pos hcalls).trans hanew)
      · exact .inr ⟨g, hg, rfl⟩

/-- **Whatever an artifact holds, a template that compiles has its program**: that of the artifact, if this is
accepted and fits the filters, or the one that is compiled and stored anew. The artifact alone is accepted or
refused. Only faults of texts with bytes that are no characters, of values that nest too deeply, and of filter
calls without a slot are let through. -/
theorem Engine.program_of_content (bytes : List UInt8) :
    (∀ (d : Disk) (cache : Path), d.read cache = .ok bytes →
      EndsWith (LoadFails cache bytes)
        (fun p => Program.decode bytes = .ok p ∧ p.version = layoutVersion ∧ p.problem? = none)
        (loadArtifact d cache)) ∧
    ∀ (e : Engine) (d d' : Disk) (name : String) (source cache : Path) (text : String) (p : Program),
      d.read cache = .ok bytes → e.config.resolve d name = .ok (source, cache) →
      sourceText d e.config.charset source = .ok text →
      Gabarit.compile e.filters text source.text = .ok p → storeArtifact cache p d = .ok () d' →
      (∃ q, e.loadFitting d cache = .ok q ∧ e.program name d = .ok q d) ∨
      e.program name d = .ok p d' ∨
      ∃ f, ContentFault bytes f ∧ e.program name d = .error (.fault f) d :=
  ⟨fun _ _ hread => loadArtifact_ends hread, fun _ _ _ _ _ _ _ _ hread hresolve htext hcompile hstore =>
    program_of_read hread hresolve htext hcompile hstore⟩

/-- An artifact that is a text with few brackets, and has no filter call without a slot, never keeps a template
from its program. -/
theorem Engine.exists_program_of_text {cs : List Char} (hfew : brackets (cs.map some) < nestingLimit)
    (hslots : ∀ q, Program.decode (Utf8.encode cs) = .ok q → ∀ c ∈ q.calls, c.HasSlot) {name text : String}
    {p : Program} (hread : d.read cache = .ok (Utf8.encode cs))
    (hresolve : e.config.resolve d name = .ok (source, cache))
    (htext : sourceText d e.config.charset source = .ok text)
    (hcompile : Gabarit.compile e.filters text source.text = .ok p)
    (hstore : storeArtifact cache p d = .ok () d') : ∃ q d'', e.program name d = .ok q d'' := by
  obtain ⟨q, -, hq⟩ | hp | ⟨f, hfault, -⟩ := program_of_read hread hresolve htext hcompile hstore
  · exact ⟨q, d, hq⟩
  · exact ⟨p, d', hp⟩
  · cases hfault with
    | decoding _ hescapes => exact absurd hescapes (ArtifactFault.not_escapes_encode hfew _)
    | slot hdecode hc hslot => exact absurd (hslots _ hdecode _ hc) hslot

/-- A page, and its artifact of any bytes, which is newer. -/
def pageDisk (artifact : List UInt8) : Disk :=
  ⟨[(["views"], .directory 0), (["views", "x.html"], .file (Utf8.encode "one".toList) 0),
    (["views", "cache"], .directory 0), (["views", "cache", "x.json"], .file artifact 1)], [], 2⟩

/-- The path of the artifact of the page. -/
def pageCache : Path := .ofText "views/cache/x.json"

/-- An artifact that breaks off is refused, and the page compiled anew. -/
theorem Engine.program_of_content_truncated :
    let bytes := Utf8.encode "\x7b\"nodes\":[".toList
    loadArtifact (pageDisk bytes) pageCache = .error (.error (.badArtifact pageCache .content)) ∧
      ∃ d', ({} : Engine).program "x" (pageDisk bytes) = .ok ⟨#[.text "one"], 1⟩ d' := by
  intro bytes
  obtain ⟨hbroken, hload, hread, hresolve, htext, hcompile, hstore⟩ :
      Program.decode bytes = .error .notJson ∧
      loadArtifact (pageDisk bytes) pageCache = .error (.error (.badArtifact pageCache .content)) ∧
      (pageDisk bytes).read pageCache = .ok bytes ∧
      ({} : Engine).config.resolve (pageDisk bytes) "x" = .ok (.ofText "views/x.html", pageCache) ∧
      sourceText (pageDisk bytes) ({} : Engine).config.charset (.ofText "views/x.html") = .ok "one" ∧
      Gabarit.compile ({} : Engine).filters "one" (Path.ofText "views/x.html").text =
        .ok ⟨#[.text "one"], 1⟩ ∧
      valueOf (storeArtifact pageCache ⟨#[.text "one"], 1⟩ (pageDisk bytes)) = some () := by
    unfold bytes
    decide +kernel
  obtain ⟨d', hstore⟩ := exists_of_valueOf hstore
  refine ⟨hload, d', ?_⟩
  obtain ⟨q, hq, -⟩ | hanew | ⟨f, hfault, -⟩ :=
    (Engine.program_of_content bytes).2 {} _ d' "x" _ _ _ _ hread hresolve htext hcompile hstore
  · obtain ⟨hloads, -⟩ := loadFitting_eq_ok.mp hq
    rw [loadArtifact_eq_ok.mpr hloads] at hload
    cases hload
  · exact hanew
  · cases hfault with
    | decoding hdecode hescapes =>
      rw [hbroken] at hdecode
      cases hdecode
      cases hescapes
    | slot hdecode =>
      rw [hbroken] at hdecode
      cases hdecode

/-- A text with a byte that is no character. -/
def badTextArtifact : List UInt8 :=
  Utf8.encode "\x7b\"nodes\":[\x7b\"kind\":\"text\",\"text\":\"".toList ++
    0xFF :: Utf8.encode "\"\x7d]\x7d".toList

/-- A field that is not known, with arrays in each other. -/
def deepArtifact : List UInt8 :=
  Utf8.encode ("\x7b\"x\":".toList ++ List.replicate (nestingLimit + 1) '[')

/-- A filter call whose slot is the least that is no index. -/
def slotArtifact : List UInt8 :=
  Utf8.encode ("\x7b\"nodes\":[\x7b\"kind\":\"echo\",\"path\":\x7b\"expr\":\"x\",\"parts\":[\"x\"]\x7d," ++
    "\"filters\":[\x7b\"name\":\"upper\",\"args\":[],\"slot\":9223372036854775808\x7d]," ++
    "\"escape\":false\x7d],\"version\":1\x7d").toList

/-- The page compiles and its artifact can be written, but a fault of what that holds is let through. -/
structure PageFails (artifact : List UInt8) (f : Fault) : Prop where
  found : ({} : Engine).config.resolve (pageDisk artifact) "x" = .ok (.ofText "views/x.html", pageCache)
  text : sourceText (pageDisk artifact) ({} : Engine).config.charset (.ofText "views/x.html") = .ok "one"
  compiled : Gabarit.compile ({} : Engine).filters "one" (Path.ofText "views/x.html").text =
    .ok ⟨#[.text "one"], 1⟩
  stored : valueOf (storeArtifact pageCache ⟨#[.text "one"], 1⟩ (pageDisk artifact)) = some ()
  program : failureOf (({} : Engine).program "x" (pageDisk artifact)) = some (.fault f)

/-- A text with a byte that is no character, a nesting that is too deep and a slot that is no index are let
through, the first two also where the artifact alone is loaded. -/
theorem Engine.exists_content_fault :
    (loadArtifact (pageDisk badTextArtifact) pageCache = .error (.fault (.artifact .badText)) ∧
      PageFails badTextArtifact (.artifact .badText)) ∧
    (loadArtifact (pageDisk deepArtifact) pageCache = .error (.fault (.artifact .tooDeep)) ∧
      PageFails deepArtifact (.artifact .tooDeep)) ∧
    PageFails slotArtifact .lengthRange := by
  have hbytes : PageFails badTextArtifact (.artifact .badText) := by constructor <;> decide +kernel
  have hnesting : PageFails deepArtifact (.artifact .tooDeep) := by constructor <;> decide +kernel
  have hslot : PageFails slotArtifact .lengthRange := by constructor <;> decide +kernel
  exact ⟨⟨by decide +kernel, hbytes⟩, ⟨by decide +kernel, hnesting⟩, hslot⟩

end Gabarit
