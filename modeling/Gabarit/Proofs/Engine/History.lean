import Gabarit.Proofs.Engine.Coherent

/-!
# Histories of a disk

Engines with different filters are called, and between that sources and artifacts are changed by hand,
each at a later time.

* `Event`, `Event.apply`, `Event.Fits`: what happens, and what may happen;
* `History`: the disks that are reached;
* **`History.coherent`**: on these, artifacts agree with their sources;
* **`program_current`**: an engine returns only programs of the current sources.
-/

namespace Gabarit

open Disk

/-- What happens to a disk. -/
inductive Event where
  | save (path : Path) (bytes : List UInt8)
  | discard (path : Path)
  | program (filters : Registry) (name : String)
  | render (filters : Registry) (name : String) (data : Value) (cursors : Cursors)
  | compile (filters : Registry) (name : String)
  | compileEach (filters : Registry)

namespace Event

/-- The disk after an event, which may have failed. -/
def apply (c : Config) (d : Disk) : Event → Disk
  | .save path bytes => stateAfter (Disk.save path bytes d)
  | .discard path => stateAfter (Disk.discard path d)
  | .program filters name => stateAfter (Engine.program ⟨c, filters⟩ name d)
  | .render filters name data cursors => stateAfter (Engine.render ⟨c, filters⟩ name data cursors d)
  | .compile filters name => stateAfter (Engine.compile ⟨c, filters⟩ name d)
  | .compileEach filters => stateAfter (Engine.compileEach ⟨c, filters⟩ d)

/-- A file that is written is a source, or an artifact with bytes that are refused; and only names in use
are compiled. -/
def Fits (c : Config) (used : String → Prop) (d : Disk) : Event → Prop
  | .save path bytes => (∃ cache, c.Uses used path cache) ∨
      ∃ source, c.Uses used source path ∧ ∀ p, ¬Loads bytes p
  | .discard _ => True
  | .program _ name | .render _ name _ _ | .compile _ name => used name
  | .compileEach _ => ∀ names, c.templates d = .ok names → ∀ n ∈ names, used n

end Event

/-- The disks that are reached by events, each at a later time. -/
inductive History (c : Config) (used : String → Prop) (d₀ : Disk) : Disk → Prop where
  | start : History c used d₀ d₀
  | step {d : Disk} {t : ℤ} {a : Event} (h : History c used d₀ d) (ht : d.now < t)
      (ha : a.Fits c used (d.at t)) : History c used d₀ (a.apply c (d.at t))

variable {c : Config} {used : String → Prop} {d₀ d d' : Disk} {filters : Registry} {name : String}

theorem Coherent.step (h : Coherent c used d) {t : ℤ} (ht : d.now < t) {a : Event}
    (ha : a.Fits c used (d.at t)) : Coherent c used (a.apply c (d.at t)) := by
  have hat := h.tick ht.le
  cases a with
  | save path bytes =>
    obtain ⟨cache, huses⟩ | ⟨source, huses, hbytes⟩ := ha
    · exact h.save_source huses ht bytes
    · exact hat.spoil huses hbytes
  | discard path => exact hat.discard path
  | program filters name => exact hat.program ha filters
  | render filters name data cursors => exact hat.render ha filters data cursors
  | compile filters name => exact hat.compile ha filters
  | compileEach filters => exact hat.compileEach ha filters

/-- **Artifacts agree with their sources on all disks that are reached** from one without artifacts. -/
theorem History.coherent (hd : d₀.IsTree) (hapart : c.Apart used d₀.place)
    (hnone : ∀ {source cache bytes t p}, c.Uses used source cache →
      d₀.file? (d₀.place cache) = some (bytes, t) → ¬Loads bytes p)
    (h : History c used d₀ d) : Coherent c used d := by
  induction h with
  | start =>
    refine ⟨hd, hapart, ?_, ?_⟩
    · intro source cache bytes t p huses hcache hloads
      exact absurd hloads (hnone huses hcache)
    · intro source cache bytes t p text u huses hcache hloads
      exact absurd hloads (hnone huses hcache)
  | step _ ht ha ih => exact ih.step ht ha

/-- **An engine returns only programs of the current sources**, whatever was done to the disk before. -/
theorem program_current (hd : d₀.IsTree) (hapart : c.Apart used d₀.place)
    (hnone : ∀ {source cache bytes t p}, c.Uses used source cache →
      d₀.file? (d₀.place cache) = some (bytes, t) → ¬Loads bytes p)
    (h : History c used d₀ d) (hname : used name) {t : ℤ} (ht : d.now < t) {p : Program}
    (hprogram : Engine.program ⟨c, filters⟩ name (d.at t) = .ok p d') :
    Engine.Current ⟨c, filters⟩ (d.at t) name p := by
  have hcoherent := (History.coherent hd hapart hnone h).tick ht.le
  exact hcoherent.current_of_program hname hprogram

/-- The artifact of a page is found again. -/
theorem program_current_found :
    let c : Config := { charset := "utf8" }
    let page := Path.ofText "views/page.html"
    let d₀ : Disk := ⟨[(["views"], .directory 0)], [], 0⟩
    let d₁ := (Event.save page (Utf8.encode "one".toList)).apply c (d₀.at 1)
    let d₂ := (Event.program .standard "page").apply c (d₁.at 2)
    Engine.Current ⟨c, .standard⟩ (d₂.at 3) "page" ⟨#[.text "one"], 1⟩ := by
  intro c page d₀ d₁ d₂
  have hd : d₀.IsTree := by
    unfold d₀
    decide
  have hapart : c.Apart (· ∈ ["page", "base"]) d₀.place := by
    refine Config.apart_of_pathsOf ?_ ?_ <;> unfold c
    · decide
    · unfold d₀
      decide +kernel
  have hpage : ∃ cache, c.Uses (· ∈ ["page", "base"]) page cache := by
    unfold c page
    exact ⟨_, "page", by decide, rfl, rfl⟩
  have hrun : History c (· ∈ ["page", "base"]) d₀ d₂ := by
    refine .step (.step .start ?_ (.inl hpage)) ?_ List.mem_cons_self
    · decide
    · unfold d₁ d₀ c page
      decide +kernel
  have hprogram : valueOf (Engine.program ⟨c, .standard⟩ "page" (d₂.at 3)) =
      some ⟨#[.text "one"], 1⟩ := by
    unfold d₂ d₁ d₀ c page
    decide +kernel
  obtain ⟨d', hprogram⟩ := exists_of_valueOf hprogram
  refine program_current hd hapart ?_ hrun List.mem_cons_self ?_ hprogram
  · intro source cache bytes t p huses hcache
    rw [file?_eq_none (by simp [d₀, Entry.isFile])] at hcache
    cases hcache
  · unfold d₂ d₁ d₀ c page
    decide +kernel

/-- Paths that are different may lead to one place. There the artifact of a page takes the place of the
page, and the next program is not that of the new content. -/
theorem program_current_alias :
    let c : Config :=
      { templateDir := .ofText "v", cacheDir := .ofText "v/../v", cacheExtension := ".html",
        charset := "utf8" }
    let page := Path.ofText "v/page.html"
    let d₀ : Disk := ⟨[(["v"], .directory 0)], [], 0⟩
    let d₁ := (Event.save page (Utf8.encode "one".toList)).apply c (d₀.at 1)
    let d₂ := (Event.program .standard "page").apply c (d₁.at 2)
    d₀.IsTree ∧ c.Apart (· ∈ ["page", "base"]) id ∧ History c (· ∈ ["page", "base"]) d₀ d₂ ∧
      ∃ p d', Engine.program ⟨c, .standard⟩ "page" (d₂.at 3) = .ok p d' ∧
        ¬Engine.Current ⟨c, .standard⟩ (d₂.at 3) "page" p := by
  intro c page d₀ d₁ d₂
  have hd : d₀.IsTree := by
    unfold d₀
    decide
  have hpage : ∃ cache, c.Uses (· ∈ ["page", "base"]) page cache := by
    unfold c page
    exact ⟨_, "page", by decide, rfl, rfl⟩
  have hprogram : valueOf (Engine.program ⟨c, .standard⟩ "page" (d₂.at 3)) =
      some ⟨#[.text "one"], 1⟩ := by
    unfold d₂ d₁ d₀ c page
    decide +kernel
  obtain ⟨d', hprogram⟩ := exists_of_valueOf hprogram
  refine ⟨hd, ?_, ?_, _, d', hprogram, ?_⟩
  · refine Config.apart_of_pathsOf ?_ ?_ <;> unfold c
    · decide
    · decide +kernel
  · refine .step (.step .start ?_ (.inl hpage)) ?_ List.mem_cons_self
    · decide
    · unfold d₁ d₀ c page
      decide +kernel
  · rintro ⟨content, hcontent, hnow⟩
    have hne : (Engine.contentNow ⟨c, .standard⟩ (d₂.at 3) "page").toOption ≠
        (Program.encode ⟨#[.text "one"], 1⟩).toOption := by
      unfold d₂ d₁ d₀ c page
      decide +kernel
    rw [hnow, hcontent] at hne
    exact hne rfl

end Gabarit
