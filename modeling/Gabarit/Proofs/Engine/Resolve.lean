import Gabarit.Engine.Layout
import Gabarit.Proofs.Disk.Tree

/-!
# Resolving names on changing disks

* `sourceOf_eq_ok`: where a source is below the directory of templates;
* `resolve_eq_ok`: the two ways of resolving a name;
* `StaysMissing`: a source that is missing, and is not found when directories and an artifact are added;
* **`resolve_gains`**: a name is resolved in the same way when these are added.
-/

namespace Gabarit.Config

open Disk

variable {c : Config} {d d' : Disk} {name : String} {source cache : Path}

theorem isAbsolute_ofText (s : String) :
    (Path.ofText s).isAbsolute = false ↔ s.toList.head? ≠ some '/' := by
  rw [Path.isAbsolute, bne_eq_false_iff_eq, Path.ofText]
  dsimp only
  unfold Path.anchorOf
  split
  · simp_all
  · simp_all
  · simp_all
  · rename_i hslash
    simp only [true_iff, ne_eq]
    intro hhead
    obtain ⟨rest, hrest⟩ := List.head?_eq_some_iff.mp hhead
    exact hslash rest hrest

theorem isAbsolute_ofText_append {a b : String} (ha : a ≠ "") (h : (Path.ofText a).isAbsolute = false) :
    (Path.ofText (a ++ b)).isAbsolute = false := by
  rw [isAbsolute_ofText] at h ⊢
  rwa [String.toList_append, List.head?_append_of_ne_nil _ (by simpa using ha)]

theorem plainTemplateName_eq_ok {plain : String} (h : plainTemplateName name = .ok plain) :
    plain ≠ "" ∧ (Path.ofText plain).isAbsolute = false := by
  unfold plainTemplateName at h
  dsimp only at h
  split_ifs at h with hplain
  cases h
  rw [not_or, not_or, Bool.not_eq_true] at hplain
  exact ⟨hplain.1, hplain.2.1⟩

theorem sourceOf_eq_ok (h : c.sourceOf name = .ok source) :
    ∃ parts, source = ⟨c.templateDir.anchor, c.templateDir.parts ++ parts⟩ := by
  obtain ⟨plain, hplain, h⟩ := bind_eq_ok.mp h
  cases h
  obtain ⟨hne, habsolute⟩ := plainTemplateName_eq_ok hplain
  rw [Path.child, Path.join, if_neg (by simp [isAbsolute_ofText_append hne habsolute])]
  exact ⟨_, rfl⟩

theorem resolve_eq_ok : c.resolve d name = .ok (source, cache) ↔ ∃ own, c.sourceOf name = .ok own ∧
    (d.isFile own = .ok true ∧ source = own ∧ c.artifactOf name = .ok cache ∨
      d.isFile own = .ok false ∧ c.sourceOf c.defaultTemplate = .ok source ∧
        d.isFile source = .ok true ∧ c.artifactOf c.defaultTemplate = .ok cache) := by
  rw [resolve]
  dsimp only
  rw [bind_eq_ok]
  refine exists_congr fun own => and_congr_right fun _ => ?_
  rw [bind_eq_ok]
  simp only [mapError_eq_ok]
  constructor
  · rintro ⟨there, hthere, h⟩
    split_ifs at h with htrue
    · obtain ⟨artifact, hartifact, h⟩ := bind_eq_ok.mp h
      cases h
      exact .inl ⟨htrue ▸ hthere, rfl, hartifact⟩
    · obtain ⟨usual, husual, h⟩ := bind_eq_ok.mp h
      obtain ⟨there', hthere', h⟩ := bind_eq_ok.mp h
      split_ifs at h with htrue'
      obtain ⟨artifact, hartifact, h⟩ := bind_eq_ok.mp h
      cases h
      rw [mapError_eq_ok] at hthere'
      rw [Bool.not_eq_true] at htrue
      exact .inr ⟨htrue ▸ hthere, husual, htrue' ▸ hthere', hartifact⟩
  · rintro (⟨hfile, rfl, hartifact⟩ | ⟨hfile, husual, husual', hartifact⟩)
    · refine ⟨true, hfile, ?_⟩
      rw [if_pos rfl, hartifact]
      rfl
    · refine ⟨false, hfile, ?_⟩
      rw [if_neg Bool.false_ne_true, husual]
      simp only [bind, Except.bind, husual', hartifact]
      rfl

theorem resolve_isFile (h : c.resolve d name = .ok (source, cache)) : d.isFile source = .ok true := by
  obtain ⟨own, -, ⟨hfile, rfl, -⟩ | ⟨-, -, hfile, -⟩⟩ := resolve_eq_ok.mp h
  · exact hfile
  · exact hfile

/-! ## Sources that stay missing -/

/-- The source is not where the artifact is put, and its name below the directory of templates climbs
nowhere and has no component that is too long. -/
structure StaysMissing (c : Config) (d : Disk) (source cache : Path) : Prop where
  apart : d.place source ≠ d.place cache
  down : ∀ parts ∈ source.below? c.templateDir, ∀ part ∈ parts, GoesDown part

theorem below?_append (dir : Path) (parts : List String) :
    Path.below? ⟨dir.anchor, dir.parts ++ parts⟩ dir = some parts := by
  rw [Path.below?, if_pos ⟨rfl, by simp⟩]
  simp

theorem isAbsence_of_follow {here : Place} {names : List String} {f : FileFault}
    (h : d.follow here names = .error f) (hlong : f ≠ .nameTooLong) : isAbsence f = true := by
  induction names generalizing here with
  | nil => cases h
  | cons name rest ih =>
    rw [follow] at h
    split at h
    · cases h
      rfl
    · cases h
      rfl
    · split_ifs at h
      · exact ih h
      · cases h
        exact absurd rfl hlong
      · exact ih h

/-- A source below a directory that is there is still missing when directories and an artifact are
added. -/
theorem isFile_eq_false_of_gains (hd : d.IsTree) {k : Place} (hgains : Gains k d d') {own : Path}
    {above parts : List String} (hown : own.parts = above ++ parts)
    (hparts : ∀ part ∈ parts, GoesDown part) {base : Place} (hbase : d.follow (d.start own) above = .ok base)
    (hapart : d.place own ≠ k) (hfile : d.isFile own = .ok false) : d'.isFile own = .ok false := by
  have hplace : d.place own = base ++ parts := by
    rw [place, hown, climb_append, ← follow_eq_climb hbase, climb_of_goesDown hparts]
  have hbase' : d'.follow (d'.start own) above = .ok base := by
    rw [start_congr hgains.current]
    exact follow_mono hgains.hasDirectory hbase
  have hshort (hnul : hasNul own = false) : own.text.utf8ByteSize < pathLimit := by
    by_contra hlong
    rw [isFile, holds, stat, locate, if_neg (by simp [hnul]), if_pos (Nat.not_lt.mp hlong)] at hfile
    cases hfile
  rw [isFile, holds]
  cases hstat : d'.stat own with
  | ok e =>
    cases e with
    | directory t => rfl
    | file bytes t =>
      obtain ⟨r, hr, hfind⟩ := stat_eq_ok.mp hstat
      obtain rfl : r = d.place own := (locate_place hr).trans (place_congr hgains.current own)
      obtain hfound | ⟨-, hnew | hk⟩ := hgains.added hfind
      · have hfollow := hd.follow_of_find? hparts (hplace ▸ hfound)
        have hlocate : d.locate own = .ok (base ++ parts) := by
          obtain ⟨hnul, hlen, -⟩ := locate_eq_ok.mp hr
          refine locate_eq_ok.mpr ⟨hnul, hlen, ?_⟩
          rw [hown, follow_append, hbase]
          exact hfollow
        have htrue := isFile_eq_true.mpr ⟨bytes, t, stat_eq_ok.mpr ⟨_, hlocate, hplace ▸ hfound⟩⟩
        rw [hfile] at htrue
        cases htrue
      · cases hnew
      · exact absurd hk hapart
  | error f =>
    have habsent : isAbsence f = true := by
      rw [stat, locate] at hstat
      by_cases hnul : hasNul own = true
      · rw [if_pos hnul] at hstat
        cases hstat
        rfl
      · rw [if_neg hnul, if_neg (Nat.not_le.mpr (hshort (by simpa using hnul))), hown, follow_append,
          hbase'] at hstat
        cases hfollow : d'.follow base parts with
        | error g =>
          have hstat' : (Except.error g : Except FileFault Entry) = .error f := by
            simpa [bind, Except.bind, hfollow] using hstat
          cases hstat'
          exact isAbsence_of_follow hfollow fun hg => follow_ne_long hparts (hg ▸ hfollow)
        | ok r =>
          simp only [bind, Except.bind, hfollow] at hstat
          split at hstat <;> cases hstat
          rfl
    dsimp only
    rw [if_pos habsent]

/-- **A name is resolved in the same way** when directories and its artifact are added. -/
theorem resolve_gains (hd : d.IsTree) (hgains : Gains (d.place cache) d d')
    (h : c.resolve d name = .ok (source, cache))
    (hmissing : ∀ own, c.sourceOf name = .ok own → d.isFile own = .ok false → c.StaysMissing d own cache) :
    c.resolve d' name = .ok (source, cache) := by
  have hmono {p : Path} (hp : d.isFile p = .ok true) : d'.isFile p = .ok true := by
    obtain ⟨bytes, t, hstat⟩ := isFile_eq_true.mp hp
    exact isFile_eq_true.mpr ⟨bytes, t, hgains.stat hstat⟩
  obtain ⟨own, hown, ⟨hfile, rfl, hcache⟩ | ⟨hfile, husual, hthere, hcache⟩⟩ := resolve_eq_ok.mp h
  · exact resolve_eq_ok.mpr ⟨source, hown, .inl ⟨hmono hfile, rfl, hcache⟩⟩
  · refine resolve_eq_ok.mpr ⟨own, hown, .inr ⟨?_, husual, hmono hthere, hcache⟩⟩
    obtain ⟨parts, rfl⟩ := sourceOf_eq_ok hown
    obtain ⟨parts', rfl⟩ := sourceOf_eq_ok husual
    have hstays := hmissing _ hown hfile
    -- the usual template is there, so the directory of templates is
    obtain ⟨bytes, t, hstat⟩ := isFile_eq_true.mp hthere
    obtain ⟨r, hr, -⟩ := stat_eq_ok.mp hstat
    have hfollow := (locate_eq_ok.mp hr).2.2
    rw [follow_append] at hfollow
    obtain ⟨base, hbase, -⟩ := bind_eq_ok.mp hfollow
    exact isFile_eq_false_of_gains hd hgains rfl (hstays.down parts (below?_append _ _)) hbase
      hstays.apart hfile

end Gabarit.Config
