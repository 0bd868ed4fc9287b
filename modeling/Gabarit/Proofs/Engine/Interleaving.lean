import Gabarit.Proofs.Engine.Coherent

/-!
# Calls that run at the same time

Several calls ask for the program of one template, each step by step, and between their steps the source is
written by hand.

* `Phase`, `Engine.advance`: how far a call has come, and its next step;
* `Engine.program_eq_advances`: without anything in between, the steps of a call are `Engine.program`;
* `World`, `Interleaved`: calls over one disk, and what is reached when steps and writes follow in any order;
* `Engine.Kept`: the invariant; `Kept.call`, `Kept.edit`: it is kept;
* **`Engine.artifact_of_interleaved`**: an artifact is always the whole one of a text that the source has
  held, and if no source is written while a call is about to store, one that counts as up to date is that of
  the source;
* `Engine.exists_interleaved_stale`: a write of the source may be lost otherwise.
-/

namespace Gabarit

open Disk Artifact

/-! ## Steps of a call -/

/-- How far a call has come. -/
inductive Phase where
  /-- It is to ask whether the artifact is up to date. -/
  | checking
  /-- It is to load the artifact. -/
  | loading
  /-- It is to read and compile the source. -/
  | reading
  /-- It is to store the artifact of a program. -/
  | storing (p : Program)
  | ended (result : Except Failure Program)

/-- A call has done its first step, but not its last one. -/
def Phase.inProgress : Phase → Bool
  | .checking | .ended _ => false
  | _ => true

/-- The next step of a call on a disk: the disk and the call after it. -/
def Engine.advance (e : Engine) (source cache : Path) (d : Disk) : Phase → Disk × Phase
  | .checking =>
    match needsCompiling d source cache with
    | .ok stale => (d, if stale then .reading else .loading)
    | .error f => (d, .ended (.error f))
  | .loading =>
    match e.loadFitting d cache with
    | .ok p => (d, .ended (.ok p))
    | .error f => (d, if callsForCompiling f then .reading else .ended (.error f))
  | .reading =>
    match sourceText d e.config.charset source with
    | .ok text =>
      match Gabarit.compile e.filters text source.text with
      | .ok p => (d, .storing p)
      | .error f => (d, .ended (.error f))
    | .error f => (d, .ended (.error f))
  | .storing p =>
    match storeArtifact cache p d with
    | .ok () d' => (d', .ended (.ok p))
    | .error f d' => (d', .ended (.error f))
  | .ended result => (d, .ended result)

/-- The result of a computation without the state. -/
def resultOf {ε σ α : Type} : EStateM.Result ε σ α → Except ε α
  | .ok a _ => .ok a
  | .error f _ => .error f

namespace Engine

variable (e : Engine) (source cache : Path) (d : Disk)

/-- Several steps of a call with nothing in between. -/
def advances (n : ℕ) (phase : Phase) : Disk × Phase :=
  (fun s : Disk × Phase => e.advance source cache s.1 s.2)^[n] (d, phase)

theorem advances_succ (n : ℕ) (phase : Phase) :
    e.advances source cache d (n + 1) phase =
      e.advances source cache (e.advance source cache d phase).1 n (e.advance source cache d phase).2 :=
  Function.iterate_succ_apply _ n _

theorem advances_ended (n : ℕ) (result : Except Failure Program) :
    e.advances source cache d n (.ended result) = (d, .ended result) := by
  induction n with
  | zero => rfl
  | succ n ih => rw [advances_succ, advance, ih]

theorem advances_reading (n : ℕ) : e.advances source cache d (n + 2) .reading =
    (stateAfter (e.compileAnew source cache d), .ended (resultOf (e.compileAnew source cache d))) := by
  rw [advances_succ, advance, compileAnew_apply]
  cases sourceText d e.config.charset source with
  | error f => exact advances_ended e source cache d _ _
  | ok text =>
    dsimp only
    cases Gabarit.compile e.filters text source.text with
    | error f => exact advances_ended e source cache d _ _
    | ok p =>
      dsimp only
      rw [advances_succ, advance]
      cases storeArtifact cache p d <;> exact advances_ended e source cache _ _ _

/-- **The steps of a call with nothing in between make up `Engine.program`.** -/
theorem program_eq_advances {name : String} (h : e.config.resolve d name = .ok (source, cache)) :
    e.advances source cache d 4 .checking =
      (stateAfter (e.program name d), .ended (resultOf (e.program name d))) := by
  rw [advances_succ, advance, program_apply, h]
  dsimp only
  cases needsCompiling d source cache with
  | error f => exact advances_ended e source cache d _ _
  | ok stale =>
    cases stale with
    | true => exact advances_reading e source cache d 1
    | false =>
      dsimp only
      rw [if_neg Bool.false_ne_true, advances_succ, advance]
      cases e.loadFitting d cache with
      | ok p => exact advances_ended e source cache d _ _
      | error f =>
        dsimp only
        split_ifs
        · exact advances_reading e source cache d 0
        · exact advances_ended e source cache d _ _

end Engine

/-! ## Calls over one disk -/

/-- Calls over one disk, with all that the source has held. -/
structure World (ι : Type) where
  disk : Disk
  phase : ι → Phase
  held : List (List UInt8)

/-- The bytes of the file at a path, if there is one. -/
def Disk.bytesAt (d : Disk) (p : Path) : List (List UInt8) := ((d.file? (d.place p)).map (·.1)).toList

namespace World

variable {ι : Type}

/-- No call has done anything yet. -/
def start (source : Path) (d : Disk) : World ι := ⟨d, fun _ => .checking, d.bytesAt source⟩

/-- The step of a call at a time. -/
def call [DecidableEq ι] (e : Engine) (source cache : Path) (t : ℤ) (i : ι) (w : World ι) : World ι where
  disk := (e.advance source cache (w.disk.at t) (w.phase i)).1
  phase := Function.update w.phase i (e.advance source cache (w.disk.at t) (w.phase i)).2
  held := w.held

/-- The source is written at a time. -/
def edit (source : Path) (t : ℤ) (bytes : List UInt8) (w : World ι) : World ι :=
  let d := stateAfter (Disk.save source bytes (w.disk.at t))
  { w with disk := d, held := d.bytesAt source ++ w.held }

/-- No call is in progress. -/
def Quiet (w : World ι) : Prop := ∀ i, (w.phase i).inProgress = false

/-- No call is about to store an artifact. -/
def Settled (w : World ι) : Prop := ∀ i p, w.phase i ≠ .storing p

theorem settled_start (source : Path) (d : Disk) : (start source d : World ι).Settled := nofun

end World

/-- What is reached by steps of calls and by writes of the source, one after the other in any order, each at
a later time. The source is written only when it is `allowed`. -/
inductive Interleaved {ι : Type} [DecidableEq ι] (e : Engine) (source cache : Path)
    (allowed : World ι → Prop) (d₀ : Disk) : World ι → Prop where
  | start : Interleaved e source cache allowed d₀ (.start source d₀)
  | call {w : World ι} (h : Interleaved e source cache allowed d₀ w) {t : ℤ} (ht : w.disk.now < t) (i : ι) :
    Interleaved e source cache allowed d₀ (w.call e source cache t i)
  | edit {w : World ι} (h : Interleaved e source cache allowed d₀ w) {t : ℤ} (ht : w.disk.now < t)
    (hw : allowed w) (bytes : List UInt8) : Interleaved e source cache allowed d₀ (w.edit source t bytes)

namespace Engine

/-- The program is that of the bytes of a source. -/
def Compiles (e : Engine) (source : Path) (bytes : List UInt8) (p : Program) : Prop :=
  ∃ text, Decodes e.config.charset bytes text ∧ Gabarit.compile e.filters text source.text = .ok p

/-- The artifact is the whole one of the bytes of a source. -/
def Makes (e : Engine) (source : Path) (bytes artifact : List UInt8) : Prop :=
  ∃ p content, e.Compiles source bytes p ∧ p.encode = .ok content ∧ artifact = Utf8.encode content.toList

/-- The invariant of calls over one disk: none of the artifacts comes from the future, and artifacts and
programs that are to be stored are those of bytes that the source has held. If the world is `guarded`, they
are those of the bytes that it holds, for an artifact that is not older. -/
structure Kept {ι : Type} (e : Engine) (source cache : Path) (guarded : Prop) (w : World ι) : Prop where
  isTree : w.disk.IsTree
  apart : w.disk.place cache ≠ w.disk.place source
  past : ∀ {bytes t}, w.disk.file? (w.disk.place cache) = some (bytes, t) → t ≤ w.disk.now
  held : ∀ {bytes t}, w.disk.file? (w.disk.place source) = some (bytes, t) → bytes ∈ w.held
  whole : ∀ {bytes t}, w.disk.file? (w.disk.place cache) = some (bytes, t) →
    ∃ old ∈ w.held, e.Makes source old bytes
  compiled : ∀ {i p}, w.phase i = .storing p → ∃ old ∈ w.held, e.Compiles source old p
  fresh : guarded → ∀ {bytes t now u}, w.disk.file? (w.disk.place cache) = some (bytes, t) →
    w.disk.file? (w.disk.place source) = some (now, u) → u ≤ t → e.Makes source now bytes
  current : guarded → ∀ {i p now u}, w.phase i = .storing p →
    w.disk.file? (w.disk.place source) = some (now, u) → e.Compiles source now p

end Engine

/-! ## What one step keeps -/

/-- A step leaves the disk as it is, and may have compiled the source; or it stores the artifact of a program
that was compiled before. -/
theorem Engine.advance_cases {e : Engine} {source cache : Path} {d d' : Disk} {phase phase' : Phase}
    (h : e.advance source cache d phase = (d', phase')) :
    (d' = d ∧ ∀ p, phase' = .storing p → ∃ bytes t, d.file? (d.place source) = some (bytes, t) ∧
      e.Compiles source bytes p) ∨
    ∃ p content, phase = .storing p ∧ p.encode = .ok content ∧
      d' = stateAfter (Disk.replace cache (Utf8.encode content.toList) d) ∧ ∀ q, phase' ≠ .storing q := by
  cases phase with
  | checking =>
    left
    rw [advance] at h
    split at h
    · rename_i stale _
      cases h
      refine ⟨rfl, fun p hp => ?_⟩
      cases stale <;> cases hp
    · cases h
      exact ⟨rfl, nofun⟩
  | loading =>
    left
    rw [advance] at h
    split at h
    · cases h
      exact ⟨rfl, nofun⟩
    · cases h
      refine ⟨rfl, fun p hp => ?_⟩
      split at hp <;> cases hp
  | reading =>
    left
    rw [advance] at h
    split at h
    · rename_i text htext
      split at h
      · rename_i p hp
        cases h
        refine ⟨rfl, ?_⟩
        rintro _ ⟨⟩
        obtain ⟨bytes, hread, hdecodes⟩ := sourceText_eq_ok.mp htext
        obtain ⟨t, ht⟩ := read_eq_ok.mp hread
        exact ⟨bytes, t, file?_of_stat ht, text, hdecodes, hp⟩
      · cases h
        exact ⟨rfl, nofun⟩
    · cases h
      exact ⟨rfl, nofun⟩
  | storing p =>
    rw [advance, storeArtifact_apply] at h
    cases hcontent : p.encode with
    | error f =>
      rw [hcontent] at h
      cases h
      exact .inl ⟨rfl, nofun⟩
    | ok content =>
      rw [hcontent] at h
      right
      refine ⟨p, content, rfl, hcontent, ?_⟩
      dsimp only at h
      cases hreplace : Disk.replace cache (Utf8.encode content.toList) d with
      | ok _ d₁ =>
        rw [hreplace] at h
        cases h
        exact ⟨rfl, nofun⟩
      | error f d₁ =>
        rw [hreplace] at h
        cases h
        exact ⟨rfl, nofun⟩
  | ended result =>
    cases h
    exact .inl ⟨rfl, nofun⟩

namespace Engine.Kept

variable {ι : Type} {e : Engine} {source cache : Path} {guarded : Prop} {w : World ι}

theorem start {d₀ : Disk} (hd : d₀.IsTree) (hapart : d₀.place cache ≠ d₀.place source)
    (hnone : d₀.file? (d₀.place cache) = none) :
    Kept e source cache guarded (.start source d₀ : World ι) where
  isTree := hd
  apart := hapart
  past h := by
    change d₀.file? (d₀.place cache) = _ at h
    rw [hnone] at h
    cases h
  held {bytes t} h := by
    change d₀.file? (d₀.place source) = _ at h
    change bytes ∈ d₀.bytesAt source
    rw [bytesAt, h]
    exact List.mem_cons_self
  whole h := by
    change d₀.file? (d₀.place cache) = _ at h
    rw [hnone] at h
    cases h
  compiled h := nomatch h
  fresh _ _ _ _ _ h := by
    change d₀.file? (d₀.place cache) = _ at h
    rw [hnone] at h
    cases h
  current _ _ _ _ _ h := nomatch h

theorem tick (h : Kept e source cache guarded w) {t : ℤ} (ht : w.disk.now ≤ t) :
    Kept e source cache guarded { w with disk := w.disk.at t } :=
  { h with
    isTree := ⟨h.isTree.parent, h.isTree.current⟩
    past := fun hcache => (h.past hcache).trans ht }

theorem of_same {w' : World ι} (h : Kept e source cache guarded w) (htree : w'.disk.IsTree)
    (hplace : w'.disk.place = w.disk.place) (hnow : w'.disk.now = w.disk.now)
    (hfile : w'.disk.file? = w.disk.file?) (hheld : ∀ old ∈ w.held, old ∈ w'.held)
    (hphase : ∀ {i p}, w'.phase i = .storing p → w.phase i = .storing p) :
    Kept e source cache guarded w' where
  isTree := htree
  apart := by
    rw [hplace]
    exact h.apart
  past := by
    rw [hplace, hfile, hnow]
    exact h.past
  held := by
    rw [hplace, hfile]
    exact fun hsource => hheld _ (h.held hsource)
  whole := by
    rw [hplace, hfile]
    intro bytes t hcache
    obtain ⟨old, hold, hmakes⟩ := h.whole hcache
    exact ⟨old, hheld old hold, hmakes⟩
  compiled hi := by
    obtain ⟨old, hold, hcompiles⟩ := h.compiled (hphase hi)
    exact ⟨old, hheld old hold, hcompiles⟩
  fresh := by
    rw [hplace, hfile]
    exact h.fresh
  current := by
    rw [hplace, hfile]
    exact fun hguarded _ _ _ _ hi => h.current hguarded (hphase hi)

theorem of_stored {w' : World ι} (h : Kept e source cache guarded w) (htree : w'.disk.IsTree)
    (hplace : w'.disk.place = w.disk.place) (hnow : w'.disk.now = w.disk.now) {i : ι} {p : Program}
    {content : String} (hp : w.phase i = .storing p) (hcontent : p.encode = .ok content)
    (hfile : w'.disk.file? = Function.update w.disk.file? (w.disk.place cache)
      (some (Utf8.encode content.toList, w.disk.now))) (hheld : w'.held = w.held)
    (hphase : ∀ {i p}, w'.phase i = .storing p → w.phase i = .storing p) :
    Kept e source cache guarded w' := by
  have hcache : w'.disk.file? (w'.disk.place cache) = some (Utf8.encode content.toList, w.disk.now) := by
    rw [hplace, hfile, Function.update_self]
  have hsource : w'.disk.file? (w'.disk.place source) = w.disk.file? (w.disk.place source) := by
    rw [hplace, hfile, Function.update_of_ne h.apart.symm]
  refine ⟨htree, hplace ▸ h.apart, ?_, ?_, ?_, ?_, ?_, ?_⟩
  · intro bytes t hbytes
    cases hcache.symm.trans hbytes
    rw [hnow]
  · intro bytes t hbytes
    rw [hheld]
    exact h.held (hsource ▸ hbytes)
  · intro bytes t hbytes
    cases hcache.symm.trans hbytes
    obtain ⟨old, hold, hcompiles⟩ := h.compiled hp
    exact ⟨old, hheld ▸ hold, p, content, hcompiles, hcontent, rfl⟩
  · intro j q hq
    rw [hheld]
    exact h.compiled (hphase hq)
  · intro hguarded bytes t now u hbytes hnow' _
    cases hcache.symm.trans hbytes
    exact ⟨p, content, h.current hguarded hp (hsource ▸ hnow'), hcontent, rfl⟩
  · intro hguarded j q now u hq hnow'
    exact h.current hguarded (hphase hq) (hsource ▸ hnow')

theorem call [DecidableEq ι] (h : Kept e source cache guarded w) {t : ℤ} (ht : w.disk.now < t) (i : ι) :
    Kept e source cache guarded (w.call e source cache t i) := by
  have hat := h.tick ht.le
  generalize hstep : e.advance source cache (w.disk.at t) (w.phase i) = next
  obtain ⟨d', phase'⟩ := next
  have hcall : w.call e source cache t i = ⟨d', Function.update w.phase i phase', w.held⟩ := by
    rw [World.call, hstep]
  rw [hcall]
  have hphases {j : ι} {p : Program} (hj : Function.update w.phase i phase' j = .storing p) :
      phase' = .storing p ∨ w.phase j = .storing p := by
    by_cases hne : j = i
    · subst hne
      rw [Function.update_self] at hj
      exact .inl hj
    · rw [Function.update_of_ne hne] at hj
      exact .inr hj
  obtain ⟨rfl, hcompiles⟩ | ⟨p, content, hphase, hcontent, hd', hended⟩ := advance_cases hstep
  · -- the disk is as it was, and the call may hold a program of the source now
    refine { hat with compiled := ?_, current := ?_ }
    · intro j p hj
      obtain hj | hj := hphases hj
      · obtain ⟨bytes, u, hsource, hp⟩ := hcompiles p hj
        exact ⟨bytes, hat.held hsource, hp⟩
      · exact hat.compiled hj
    · intro hguarded j p now u hj hsource
      obtain hj | hj := hphases hj
      · obtain ⟨bytes, v, hsource', hp⟩ := hcompiles p hj
        cases hsource'.symm.trans hsource
        exact hp
      · exact hat.current hguarded hj hsource
  · have hkept {j : ι} {q : Program} (hj : Function.update w.phase i phase' j = .storing q) :
        w.phase j = .storing q := (hphases hj).resolve_left (hended q)
    have hsets := replace_sets hat.isTree cache (Utf8.encode content.toList)
    rw [← hd'] at hsets
    have hplace : d'.place = (w.disk.at t).place := funext (place_congr hsets.current)
    obtain hfile | hfile := hsets.file?
    · exact hat.of_same hsets.isTree hplace hsets.now hfile (fun _ hold => hold) hkept
    · exact hat.of_stored hsets.isTree hplace hsets.now hphase hcontent hfile rfl hkept

theorem edit (h : Kept e source cache guarded w) {t : ℤ} (ht : w.disk.now < t)
    (hsettled : guarded → w.Settled) (bytes : List UInt8) :
    Kept e source cache guarded (w.edit source t bytes) := by
  have hat := h.tick ht.le
  have hsets := save_sets hat.isTree source bytes
  generalize hd' : stateAfter (Disk.save source bytes (w.disk.at t)) = d' at hsets
  have hedit : w.edit source t bytes = ⟨d', w.phase, d'.bytesAt source ++ w.held⟩ := by
    rw [World.edit, hd']
  rw [hedit]
  have hplace : d'.place = (w.disk.at t).place := funext (place_congr hsets.current)
  have hheld (old : List UInt8) (hold : old ∈ w.held) : old ∈ d'.bytesAt source ++ w.held :=
    List.mem_append_right _ hold
  obtain hfile | hfile := hsets.file?
  · exact hat.of_same hsets.isTree hplace hsets.now hfile hheld fun hi => hi
  · -- the source is newer than the artifact
    have hsource : d'.file? (d'.place source) = some (bytes, t) := by
      rw [hplace, hfile, Function.update_self]
      rfl
    have hcache : d'.file? (d'.place cache) = w.disk.file? (w.disk.place cache) := by
      rw [hplace, hfile, Function.update_of_ne hat.apart]
      rfl
    refine ⟨hsets.isTree, hplace ▸ hat.apart, ?_, ?_, ?_, ?_, ?_, ?_⟩
    · intro artifact u hartifact
      rw [hsets.now]
      exact hat.past (hcache ▸ hartifact)
    · intro now u hnow
      cases hsource.symm.trans hnow
      refine List.mem_append_left _ ?_
      rw [bytesAt, hsource]
      exact List.mem_cons_self
    · intro artifact u hartifact
      obtain ⟨old, hold, hmakes⟩ := h.whole (hcache ▸ hartifact)
      exact ⟨old, hheld old hold, hmakes⟩
    · intro j p hp
      obtain ⟨old, hold, hcompiles⟩ := h.compiled hp
      exact ⟨old, hheld old hold, hcompiles⟩
    · intro _ artifact v now u hartifact hnow hle
      cases hsource.symm.trans hnow
      have hpast := h.past (hcache ▸ hartifact)
      omega
    · intro hguarded j p now u hp
      exact absurd hp (hsettled hguarded j p)

end Engine.Kept

/-! ## Runs -/

namespace Engine

variable {ι : Type} [DecidableEq ι] {e : Engine} {source cache : Path} {allowed : World ι → Prop}
  {d₀ : Disk} {w : World ι}

theorem kept_of_interleaved (hd : d₀.IsTree) (hapart : d₀.place cache ≠ d₀.place source)
    (hnone : d₀.file? (d₀.place cache) = none) (h : Interleaved e source cache allowed d₀ w) :
    Kept e source cache (∀ w, allowed w → w.Settled) w := by
  induction h with
  | start => exact .start hd hapart hnone
  | call _ ht i ih => exact ih.call ht i
  | edit _ ht hw bytes ih => exact ih.edit ht (fun hguarded => hguarded _ hw) bytes

/-- **In whatever order the steps of calls and the writes of the source follow, an artifact is the whole one
of bytes that the source has held.** If the source is never written while a call is about to store, an
artifact that counts as up to date is that of the source: it holds what its program is written as, and is
read as a program that is written so, unless an integer in it is too long. -/
theorem artifact_of_interleaved (hd : d₀.IsTree) (hapart : d₀.place cache ≠ d₀.place source)
    (hnone : d₀.file? (d₀.place cache) = none) (h : Interleaved e source cache allowed d₀ w)
    {artifact : List UInt8} (hartifact : w.disk.read cache = .ok artifact) :
    (∃ old ∈ w.held, e.Makes source old artifact) ∧
      ((∀ w, allowed w → w.Settled) → ∀ now, w.disk.read source = .ok now →
        needsCompiling w.disk source cache = .ok false →
        ∃ text p content, sourceText w.disk e.config.charset source = .ok text ∧
          Gabarit.compile e.filters text source.text = .ok p ∧ p.encode = .ok content ∧
          artifact = Utf8.encode content.toList ∧
          ((∀ n ∈ p.integers, Short n) → ∃ q, Program.decode artifact = .ok q ∧ q.encode = .ok content)) := by
  have hkept := kept_of_interleaved hd hapart hnone h
  obtain ⟨t, hcache⟩ := read_eq_ok.mp hartifact
  refine ⟨hkept.whole (file?_of_stat hcache), fun hguarded now hnow hneeds => ?_⟩
  obtain ⟨u, hsource⟩ := read_eq_ok.mp hnow
  have hle : u ≤ t := by
    obtain ⟨a, b, ha, hb, hab⟩ := needsCompiling_eq_false hneeds
    cases hcache.symm.trans ha
    cases hsource.symm.trans hb
    exact hab
  obtain ⟨p, content, ⟨text, hdecodes, hcompile⟩, hcontent, rfl⟩ :=
    hkept.fresh hguarded (file?_of_stat hcache) (file?_of_stat hsource) hle
  refine ⟨text, p, content, sourceText_eq_ok.mpr ⟨now, hnow, hdecodes⟩, hcompile, hcontent, rfl, ?_⟩
  intro hshort
  refine ⟨p.stored, ?_, by rw [Program.encode_stored, hcontent]⟩
  rw [Program.decode_encode_short hcontent, if_pos hshort]

end Engine

/-! ## A page -/

namespace Page

def engine : Engine := ⟨{ charset := "utf8" }, .standard⟩

def source : Path := .ofText "views/x.html"

def cache : Path := .ofText "views/cache/x.json"

/-- The directory of the page, with nothing in it. -/
def disk : Disk := ⟨[(["views"], .directory 0)], [], 0⟩

/-- The text of the page is written. -/
def written (t : ℤ) (text : String) (w : World Unit) : World Unit :=
  w.edit source t (Utf8.encode text.toList)

/-- A call does its next step. -/
def called (t : ℤ) (w : World Unit) : World Unit := w.call engine source cache t ()

/-- A call has compiled the page. -/
def compiled : World Unit := called 3 (called 2 (written 1 "one" (.start source disk)))

/-- Its artifact is stored. -/
def stored : World Unit := called 4 compiled

/-- The page is written again before its artifact is stored. -/
def overtaken : World Unit := called 5 (written 4 "two" compiled)

theorem isTree_disk : disk.IsTree := by decide +kernel

theorem interleaved_compiled {allowed : World Unit → Prop} (h : allowed (.start source disk)) :
    Interleaved engine source cache allowed disk compiled := by
  refine .call (.call (.edit .start ?_ h _) ?_ ()) ?_ () <;> decide +kernel

end Page

/-- What a call has stored is the artifact of the page. -/
theorem Engine.artifact_of_interleaved_page :
    Interleaved Page.engine Page.source Page.cache World.Settled Page.disk Page.stored ∧
      ∃ artifact p content, Page.stored.disk.read Page.cache = .ok artifact ∧
        Gabarit.compile .standard "one" Page.source.text = .ok p ∧ p.encode = .ok content ∧
        artifact = Utf8.encode content.toList := by
  have hapart : Page.disk.place Page.cache ≠ Page.disk.place Page.source := by decide +kernel
  have hnone : Page.disk.file? (Page.disk.place Page.cache) = none :=
    file?_eq_none (by simp [Page.disk, Entry.isFile]) _
  -- the run is evaluated once for all that is asked of it
  obtain ⟨htime, hartifact, hnow, hneeds, htext⟩ : Page.compiled.disk.now < 4 ∧
      Page.stored.disk.read Page.cache = .ok (Utf8.encode
        "\x7b\"nodes\":[\x7b\"kind\":\"text\",\"text\":\"one\"\x7d],\"version\":1\x7d".toList) ∧
      Page.stored.disk.read Page.source = .ok (Utf8.encode "one".toList) ∧
      needsCompiling Page.stored.disk Page.source Page.cache = .ok false ∧
      sourceText Page.stored.disk Page.engine.config.charset Page.source = .ok "one" := by decide +kernel
  have hrun : Interleaved Page.engine Page.source Page.cache World.Settled Page.disk Page.stored :=
    .call (Page.interleaved_compiled (World.settled_start _ _)) htime ()
  obtain ⟨text, p, content, htext', hcompile, hcontent, hmakes, -⟩ :=
    (Engine.artifact_of_interleaved Page.isTree_disk hapart hnone hrun hartifact).2 (fun _ h => h) _ hnow
      hneeds
  cases htext.symm.trans htext'
  exact ⟨hrun, _, p, content, hartifact, hcompile, hcontent, hmakes⟩

/-- **A write of the source is lost** if it comes while a call is about to store: no call is in progress, and
the artifact counts as up to date, but it is not that of the source. -/
theorem Engine.exists_interleaved_stale :
    Interleaved Page.engine Page.source Page.cache (fun _ => True) Page.disk Page.overtaken ∧
      Page.overtaken.Quiet ∧
      needsCompiling Page.overtaken.disk Page.source Page.cache = .ok false ∧
      loadArtifact Page.overtaken.disk Page.cache = .ok ⟨#[.text "one"], 1⟩ ∧
      ¬Page.engine.Current Page.overtaken.disk "x" ⟨#[.text "one"], 1⟩ := by
  obtain ⟨hedit, hcall, hquiet, hneeds, hload, hother⟩ : Page.compiled.disk.now < 4 ∧
      (Page.written 4 "two" Page.compiled).disk.now < 5 ∧
      (Page.overtaken.phase ()).inProgress = false ∧
      needsCompiling Page.overtaken.disk Page.source Page.cache = .ok false ∧
      loadArtifact Page.overtaken.disk Page.cache = .ok ⟨#[.text "one"], 1⟩ ∧
      (Page.engine.contentNow Page.overtaken.disk "x").toOption ≠
        (Program.encode ⟨#[.text "one"], 1⟩).toOption := by decide +kernel
  have hrun : Interleaved Page.engine Page.source Page.cache (fun _ => True) Page.disk Page.overtaken :=
    .call (.edit (Page.interleaved_compiled trivial) hedit trivial _) hcall ()
  refine ⟨hrun, fun _ => hquiet, hneeds, hload, ?_⟩
  rintro ⟨content, hcontent, hnow⟩
  rw [hnow, hcontent] at hother
  exact hother rfl

end Gabarit
