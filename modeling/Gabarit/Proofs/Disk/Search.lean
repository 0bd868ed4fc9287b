import Gabarit.Disk.Glob
import Gabarit.Proofs.Disk.Components
import Gabarit.Proofs.Disk.Tree
import Mathlib.Data.List.Nodup

/-!
# Files by the ends of their names

* `NamePattern.accepts_star`: a star and some plain text fit the names that end in this text;
* `Disk.mem_children`, `Disk.mem_directoriesFrom`: what a directory holds, and the directories below it;
* `Disk.mem_select`, `Disk.search_star`: what such a pattern finds there;
* **`Disk.IsTree.mem_select_star`**: on a tree, it finds all that has such a name, however deep.
-/

namespace Gabarit

namespace NamePattern

/-- The text stands for itself in a pattern. -/
def IsPlain (s : String) : Prop := ∀ c ∈ s.toList, c ≠ '*' ∧ c ≠ '?' ∧ c ≠ '['

instance : DecidablePred IsPlain := fun s => inferInstanceAs (Decidable (∀ c ∈ s.toList, _))

/-- The part of a pattern that a character is when it stands for itself. -/
def literal (c : Char) : NamePattern := .oneOf false [(c, c)]

variable {cs name : List Char} {s : String}

theorem parseFrom_plain (h : ∀ c ∈ cs, c ≠ '*' ∧ c ≠ '?' ∧ c ≠ '[') :
    parseFrom cs.length cs = cs.map literal := by
  induction cs with
  | nil => rfl
  | cons c cs ih =>
    rw [List.forall_mem_cons] at h
    rw [List.length_cons, parseFrom, ih h.2]
    · rfl
    · exact h.1.1
    · exact h.1.2.1
    · exact h.1.2.2

theorem fits_literal : fits (cs.map literal) name = true ↔ name = cs := by
  induction cs generalizing name with
  | nil => rw [List.map_nil, fits, List.isEmpty_iff]
  | cons c cs ih =>
    cases name with
    | nil => simp [literal, fits]
    | cons d name =>
      have hsame : ([(c, c)].any (fun r => r.1 ≤ d && d ≤ r.2) != false) = true ↔ d = c := by
        simpa using ⟨fun h => Char.le_antisymm h.2 h.1, fun h => h ▸ ⟨Char.le_refl _, Char.le_refl _⟩⟩
      rw [List.map_cons, literal, fits, Bool.and_eq_true, hsame, ih, List.cons.injEq]

theorem mem_suffixes {tail : List Char} : tail ∈ suffixes name ↔ tail <:+ name := by
  induction name with
  | nil => rw [suffixes, List.mem_singleton, List.suffix_nil]
  | cons c name ih => rw [suffixes, List.mem_cons, ih, List.suffix_cons_iff]

theorem accepts_star (h : IsPlain s) (name : String) :
    accepts ("*" ++ s) name = true ↔ s.toList <:+ name.toList := by
  have hparse : parse ("*" ++ s) = .many :: s.toList.map literal := by
    have htext : ("*" ++ s).toList = '*' :: s.toList := String.toList_append
    rw [parse, ← String.length_toList, htext, List.length_cons, parseFrom, parseFrom_plain h]
  rw [accepts, hparse, fits, List.any_eq_true]
  simp only [fits_literal, mem_suffixes, exists_eq_right]

end NamePattern

namespace Disk

variable {d : Disk} {base place : Place} {name : String} {parts : List String} {ext : String}

theorem mem_children : name ∈ d.children place ↔ ∃ e, (place ++ [name], e) ∈ d.entries := by
  rw [children, List.mem_filterMap]
  constructor
  · rintro ⟨⟨q, e⟩, hmem, hq⟩
    dsimp only at hq
    split_ifs at hq with hparent
    obtain ⟨hne, rfl⟩ := hparent
    refine ⟨e, ?_⟩
    rw [List.getLast?_eq_some_getLast hne, Option.some.injEq] at hq
    rwa [← hq, List.dropLast_append_getLast]
  · rintro ⟨e, he⟩
    exact ⟨_, he, by simp⟩

theorem mem_directoriesFrom : place ∈ d.directoriesFrom base ↔
    place = base ∨ place ≠ base ∧ base <+: place ∧ ∃ t, (place, .directory t) ∈ d.entries := by
  rw [directoriesFrom, List.mem_cons, List.mem_map]
  refine or_congr_right ⟨?_, ?_⟩
  · rintro ⟨⟨q, e⟩, hmem, rfl⟩
    obtain ⟨hmem, hq⟩ := List.mem_filter.mp hmem
    cases e with
    | file bytes t => simp [Entry.isDirectory, Entry.isFile] at hq
    | directory t =>
      simp only [Bool.and_eq_true, bne_iff_ne, List.isPrefixOf_iff_prefix] at hq
      exact ⟨hq.1.2, hq.2, t, hmem⟩
  · rintro ⟨hne, hprefix, t, hmem⟩
    exact ⟨_, List.mem_filter.mpr ⟨hmem, by simp [hne, hprefix, Entry.isDirectory, Entry.isFile]⟩, rfl⟩

theorem mem_select_single {pattern : String} (hwild : NamePattern.isWild pattern = true)
    (hpattern : pattern ≠ "**") : parts ∈ d.select place [pattern] ↔
      ∃ name, parts = [name] ∧ NamePattern.accepts pattern name = true ∧ ∃ e, (place ++ [name], e) ∈ d.entries := by
  rw [select, if_neg hpattern]
  simp only [if_pos hwild, List.mem_flatMap, List.mem_filter, mem_children, select, List.map_singleton,
    List.mem_singleton]
  constructor
  · rintro ⟨name, ⟨hentry, haccepts⟩, rfl⟩
    exact ⟨name, rfl, haccepts, hentry⟩
  · rintro ⟨name, rfl, haccepts, hentry⟩
    exact ⟨name, ⟨hentry, haccepts⟩, rfl⟩

/-- The paths that two stars and one more component of a pattern select. -/
theorem mem_select {pattern : String} (hwild : NamePattern.isWild pattern = true) (hpattern : pattern ≠ "**") :
    parts ∈ d.select base ["**", pattern] ↔ ∃ above name, parts = above ++ [name] ∧
      base ++ above ∈ d.directoriesFrom base ∧ NamePattern.accepts pattern name = true ∧
      ∃ e, (base ++ parts, e) ∈ d.entries := by
  rw [select, if_pos rfl, List.mem_flatMap]
  constructor
  · rintro ⟨directory, hdirectory, hparts⟩
    obtain ⟨single, hsingle, rfl⟩ := List.mem_map.mp hparts
    obtain ⟨name, rfl, haccepts, hentry⟩ := (mem_select_single hwild hpattern).mp hsingle
    have hprefix : base <+: directory := by
      obtain rfl | ⟨-, hprefix, -⟩ := mem_directoriesFrom.mp hdirectory
      · exact List.prefix_rfl
      · exact hprefix
    obtain ⟨above, rfl⟩ := hprefix
    rw [List.drop_left]
    rw [List.append_assoc] at hentry
    exact ⟨above, name, rfl, hdirectory, haccepts, hentry⟩
  · rintro ⟨above, name, rfl, hdirectory, haccepts, hentry⟩
    refine ⟨base ++ above, hdirectory, List.mem_map.mpr ⟨[name], ?_, ?_⟩⟩
    · rw [← List.append_assoc] at hentry
      exact (mem_select_single hwild hpattern).mpr ⟨name, rfl, haccepts, hentry⟩
    · rw [List.drop_left]

theorem mem_entries_of_find? {e : Entry} (hne : place ≠ []) (h : d.find? place = some e) :
    (place, e) ∈ d.entries := by
  rw [find?_of_ne _ hne] at h
  obtain ⟨before, after, hentries, -⟩ := List.lookup_eq_some_iff.mp h
  exact hentries ▸ List.mem_append_right _ List.mem_cons_self

/-! ## Searching by the end of a name -/

theorem hasDoubleStar_of_not_mem {cs : List Char} (h : '*' ∉ cs) : NamePattern.hasDoubleStar cs = false := by
  induction cs with
  | nil => rfl
  | cons c cs ih =>
    rw [List.mem_cons, not_or] at h
    rw [NamePattern.hasDoubleStar, ih h.2]
    rintro rest rfl
    exact absurd rfl h.1

theorem search_star (d : Disk) (base : Place) (hplain : NamePattern.IsPlain ext) (hslash : '/' ∉ ext.toList) :
    d.search base (Path.ofText ("*" ++ ext)).parts = .ok (d.select base ["**", "*" ++ ext]).eraseDups := by
  have htext : ("*" ++ ext).toList = '*' :: ext.toList := String.toList_append
  have hstar : '*' ∉ ext.toList := fun h => (hplain _ h).1 rfl
  have hparts : (Path.ofText ("*" ++ ext)).parts = ["*" ++ ext] := by
    rw [Path.parts_ofText, Path.componentsOf_of_not_mem (by simp [htext, hslash]) (by simp [htext]) (by simp [htext]),
      String.ofList_toList]
  have hdouble : NamePattern.hasDoubleStar ("*" ++ ext).toList = false := by
    rw [htext, NamePattern.hasDoubleStar, hasDoubleStar_of_not_mem hstar]
    rintro rest - hrest
    exact hstar (hrest ▸ List.mem_cons_self)
  rw [hparts, search, if_neg]
  rw [List.any_cons, List.any_nil, hdouble, Bool.and_false]
  exact Bool.false_ne_true

/-- The last component ends in a text. -/
def EndsIn (ext : String) (parts : List String) : Prop :=
  ∃ above name, parts = above ++ [name] ∧ ext.toList <:+ name.toList

/-- **On a tree**, what stands below a directory is found by the end of its name. -/
theorem IsTree.mem_select_star (hd : d.IsTree) (hplain : NamePattern.IsPlain ext) {e : Entry}
    (hfind : d.find? (base ++ parts) = some e) :
    parts ∈ d.select base ["**", "*" ++ ext] ↔ EndsIn ext parts := by
  have htext : ("*" ++ ext).toList = '*' :: ext.toList := String.toList_append
  have hwild : NamePattern.isWild ("*" ++ ext) = true := by
    rw [NamePattern.isWild, htext]
    rfl
  have hpattern : "*" ++ ext ≠ "**" := by
    intro h
    have hext : ext.toList = ['*'] := (List.cons.inj (htext.symm.trans (congrArg String.toList h))).2
    exact (hplain '*' (by simp [hext])).1 rfl
  rw [mem_select hwild hpattern]
  simp only [NamePattern.accepts_star hplain]
  constructor
  · rintro ⟨above, name, hparts, -, hends, -⟩
    exact ⟨above, name, hparts, hends⟩
  · rintro ⟨above, name, rfl, hends⟩
    refine ⟨above, name, rfl, ?_, hends, e, mem_entries_of_find? (by simp) hfind⟩
    -- the directory that it stands in is found on the way
    obtain ⟨t, ht⟩ := hd.parent hfind
    rw [← List.append_assoc, List.dropLast_concat] at ht
    rw [mem_directoriesFrom]
    obtain rfl | hne := eq_or_ne above []
    · exact .inl (List.append_nil base)
    · exact .inr ⟨by simp [hne], List.prefix_append _ _, t, mem_entries_of_find? (by simp [hne]) ht⟩

theorem nodup_eraseDups {α : Type} [BEq α] [LawfulBEq α] (xs : List α) : xs.eraseDups.Nodup := by
  induction hlength : xs.length using Nat.strongRecOn generalizing xs with
  | ind length ih =>
    cases xs with
    | nil => simp
    | cons x xs =>
      rw [List.eraseDups_cons, List.nodup_cons, List.mem_eraseDups]
      have hle := List.length_filter_le (fun y => !y == x) xs
      rw [List.length_cons] at hlength
      exact ⟨by simp, ih _ (by omega) _ rfl⟩

end Disk

end Gabarit
