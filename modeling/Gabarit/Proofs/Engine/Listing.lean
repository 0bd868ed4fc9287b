import Gabarit.Proofs.Disk.Files
import Gabarit.Proofs.Disk.Search
import Gabarit.Proofs.Engine.Confined
import Mathlib.Data.List.Sort

/-!
# Listing templates

Which files are listed, under which names, and when such a name leads back to its file.

* `IsFileName`, `Disk.Named`: names that files can have;
* `Config.sourceAt`, `Config.IsSource`: the files that are templates;
* `Config.templates_eq`: the names of all templates, one for each file;
* `Config.Addressable`, **`Config.sourceOf_nameOf`**: a file is found by its name, unless nothing is left of
  this, it has a backslash, or it ends in two dots.
-/

namespace Gabarit

open Disk

/-- A name that a file can have. -/
structure IsFileName (name : String) : Prop where
  component : Path.IsComponent name
  goesDown : GoesDown name
  no_nul : '\x00' ∉ name.toList

instance : DecidablePred IsFileName := fun name =>
  decidable_of_iff (Path.IsComponent name ∧ (name ≠ ".." ∧ name.utf8ByteSize ≤ nameLimit) ∧ '\x00' ∉ name.toList)
    ⟨fun ⟨hcomponent, hdown, hnul⟩ => ⟨hcomponent, hdown, hnul⟩, fun h => ⟨h.component, h.goesDown, h.no_nul⟩⟩

/-- The names on the disk are those that files can have. -/
def Disk.Named (d : Disk) : Prop := ∀ x ∈ d.entries, ∀ name ∈ x.1, IsFileName name

instance : DecidablePred Disk.Named := fun d =>
  inferInstanceAs (Decidable (∀ x ∈ d.entries, ∀ name ∈ x.1, IsFileName name))

namespace Config

variable {c : Config} {d : Disk} {parts : List String} {there : Bool}

/-- The path of the file at some components below the directory of templates. -/
def sourceAt (c : Config) (parts : List String) : Path := ⟨c.templateDir.anchor, c.templateDir.parts ++ parts⟩

/-- At these components below the directory of templates is a file whose name has the extension, and it is
not below the directory of artifacts. -/
def IsSource (c : Config) (d : Disk) (parts : List String) : Prop :=
  EndsIn c.extension parts ∧ ∃ base, d.locate c.templateDir = .ok base ∧ (d.file? (base ++ parts)).isSome ∧
    ¬(d.place c.cacheDir <+: base ++ parts ∧ d.place c.cacheDir ≠ base ++ parts)

theorem file?_isSome {k : Place} : (d.file? k).isSome ↔ (d.find? k).any Entry.isFile := by
  unfold file?
  obtain _ | ⟨bytes, t⟩ | ⟨t⟩ := d.find? k <;> simp [Entry.isFile]

theorem isDirectory_eq_ok {p : Path} (h : d.isDirectory p = .ok there) :
    there = true ↔ ∃ base, d.locate p = .ok base ∧ d.HasDirectory base := by
  rw [isDirectory, holds] at h
  cases hstat : d.stat p with
  | ok e =>
    rw [hstat] at h
    cases h
    obtain ⟨base, hbase, hfind⟩ := stat_eq_ok.mp hstat
    constructor
    · intro hdir
      cases e with
      | file bytes t => cases hdir
      | directory t => exact ⟨base, hbase, t, hfind⟩
    · rintro ⟨base', hbase', t, ht⟩
      obtain rfl := Except.ok.inj (hbase.symm.trans hbase')
      cases hfind.symm.trans ht
      rfl
  | error f =>
    rw [hstat] at h
    dsimp only at h
    split_ifs at h
    cases h
    refine iff_of_false Bool.false_ne_true ?_
    rintro ⟨base, hbase, t, ht⟩
    cases hstat.symm.trans (stat_eq_ok.mpr ⟨base, hbase, ht⟩)

theorem IsSource.hasDirectory (hd : d.IsTree) (h : c.IsSource d parts) {base : Place}
    (hbase : d.locate c.templateDir = .ok base) : d.HasDirectory base := by
  obtain ⟨⟨above, name, rfl, -⟩, base', hbase', hfile, -⟩ := h
  obtain rfl := Except.ok.inj (hbase.symm.trans hbase')
  by_contra hno
  rw [file?_isSome, hd.find?_below hno (List.prefix_append _ _) (by simp)] at hfile
  cases hfile

/-- **The names of all templates**, one for each file. -/
theorem templates_eq (hd : d.IsTree) (hplain : NamePattern.IsPlain c.extension)
    (hslash : '/' ∉ c.extension.toList) (hcache : hasNul c.cacheDir = false)
    (hdir : d.isDirectory c.templateDir = .ok there) :
    ∃ files : List (List String), files.Nodup ∧ (∀ parts, parts ∈ files ↔ c.IsSource d parts) ∧
      c.templates d = .ok (files.map c.nameOf) := by
  have hthere := isDirectory_eq_ok hdir
  cases there with
  | false =>
    refine ⟨[], List.nodup_nil, fun parts => ⟨nofun, fun h => ?_⟩, ?_⟩
    · obtain ⟨-, base, hbase, -⟩ := id h
      exact absurd (hthere.mpr ⟨base, hbase, h.hasDirectory hd hbase⟩) Bool.false_ne_true
    · rw [templates, hdir]
      rfl
  | true =>
    obtain ⟨base, hbase, -⟩ := hthere.mp rfl
    have hresolve : d.resolve c.cacheDir = .ok (d.place c.cacheDir) := by
      rw [Disk.resolve, if_neg (by simp [hcache])]
      rfl
    have hlast : (c.extension.toList.getLast? != some '/') = true :=
      bne_iff_ne.mpr fun h => hslash (List.mem_of_getLast? h)
    let isSource (parts : List String) : Bool := (d.find? (base ++ parts)).any Entry.isFile &&
      !((d.place c.cacheDir).isPrefixOf (base ++ parts) && d.place c.cacheDir != base ++ parts)
    refine ⟨((d.select base ["**", "*" ++ c.extension]).eraseDups.filter isSource).mergeSort comesFirst,
      ?_, fun parts => ?_, ?_⟩
    · exact ((List.mergeSort_perm _ _).nodup_iff).mpr ((nodup_eraseDups _).filter _)
    · have hkept : isSource parts = true ↔ (d.file? (base ++ parts)).isSome ∧
          ¬(d.place c.cacheDir <+: base ++ parts ∧ d.place c.cacheDir ≠ base ++ parts) := by
        simp only [isSource, Bool.and_eq_true, file?_isSome, Bool.not_eq_true', ← Bool.not_eq_true,
          List.isPrefixOf_iff_prefix, bne_iff_ne]
      rw [List.mem_mergeSort, List.mem_filter, List.mem_eraseDups, hkept, IsSource]
      constructor
      · rintro ⟨hselect, hfile, hout⟩
        obtain ⟨⟨bytes, t⟩, hfind⟩ := Option.isSome_iff_exists.mp hfile
        exact ⟨(hd.mem_select_star hplain (file?_eq_some.mp hfind)).mp hselect, base, hbase, hfile, hout⟩
      · rintro ⟨hends, base', hbase', hfile, hout⟩
        obtain rfl := Except.ok.inj (hbase.symm.trans hbase')
        obtain ⟨⟨bytes, t⟩, hfind⟩ := Option.isSome_iff_exists.mp hfile
        exact ⟨(hd.mem_select_star hplain (file?_eq_some.mp hfind)).mpr hends, hfile, hout⟩
    · rw [templates, hdir, hresolve, hbase]
      simp only [Except.mapError, bind, Except.bind, search_star d base hplain hslash, hlast, Bool.and_true]
      rfl

/-! ## Names of files -/

theorem IsSource.isFileName (hd : d.Named) (h : c.IsSource d parts) : ∀ part ∈ parts, IsFileName part := by
  obtain ⟨⟨above, name, rfl, -⟩, base, -, hfile, -⟩ := h
  obtain ⟨⟨bytes, t⟩, hfind⟩ := Option.isSome_iff_exists.mp hfile
  have hentry := mem_entries_of_find? (by simp) (file?_eq_some.mp hfind)
  exact fun part hpart => hd _ hentry part (List.mem_append_right _ hpart)

theorem suffix_intercalate (sep : String) (above : List String) (name : String) :
    name.toList <:+ (sep.intercalate (above ++ [name])).toList := by
  induction above with
  | nil => exact List.suffix_rfl
  | cons first above ih =>
    obtain ⟨second, rest, hrest⟩ := List.exists_cons_of_ne_nil (List.concat_ne_nil name above)
    rw [List.cons_append, hrest, String.intercalate_cons_cons, String.toList_append, ← hrest]
    exact ih.trans (List.suffix_append _ _)

theorem nameOf_append (hends : EndsIn c.extension parts) (hne : c.extension ≠ "") :
    (c.nameOf parts).toList ++ c.extension.toList = ("/".intercalate parts).toList := by
  obtain ⟨above, name, rfl, hname⟩ := hends
  obtain ⟨front, hfront⟩ := hname.trans (suffix_intercalate "/" above name)
  have hlength : c.extension.length ≠ 0 := by
    rwa [← String.length_toList, Ne, List.length_eq_zero_iff, String.toList_eq_nil_iff]
  have hcut : ("/".intercalate (above ++ [name])).length - c.extension.length = front.length := by
    rw [← String.length_toList, ← hfront, List.length_append, String.length_toList, Nat.add_sub_cancel]
  unfold nameOf
  dsimp only
  rw [if_neg hlength, hcut, String.toList_ofList, ← hfront, List.take_left]

/-- The file can be told from its name: something is left without the extension, there is no backslash, and
the last component is not two dots. -/
def Addressable (c : Config) (parts : List String) : Prop :=
  c.nameOf parts ≠ "" ∧ '\\' ∉ (c.nameOf parts).toList ∧ parts.getLast? ≠ some (".." ++ c.extension)

instance : DecidablePred c.Addressable := fun _ => inferInstanceAs (Decidable (_ ∧ _ ∧ _))

section Names

variable (hends : EndsIn c.extension parts) (hnames : ∀ part ∈ parts, IsFileName part)
  (hslash : '/' ∉ c.extension.toList)

include hends hnames hslash

theorem splitAt_nameOf (hne : c.extension ≠ "") : ∃ above last,
    parts = above ++ [String.ofList last ++ c.extension] ∧
      Path.splitAt '/' (c.nameOf parts).toList = above.map String.toList ++ [last] := by
  have hparts : parts ≠ [] := by
    obtain ⟨above, name, rfl, -⟩ := hends
    simp
  obtain ⟨pieces, last, -, -, hsplit⟩ := Path.exists_splitAt_append '/' (c.nameOf parts).toList
  have hpath := Path.splitAt_intercalate (fun part hpart => (hnames part hpart).component) hparts
  rw [← nameOf_append hends hne, hsplit _ hslash] at hpath
  have hname := hsplit [] List.not_mem_nil
  rw [List.append_nil, List.append_nil] at hname
  refine ⟨pieces.map String.ofList, last, ?_, ?_⟩
  · have htexts := congrArg (List.map String.ofList) hpath
    rw [List.map_map, List.map_append, List.map_singleton, String.ofList_append, String.ofList_toList] at htexts
    rw [htexts]
    exact (List.map_id'' (fun _ => String.ofList_toList) parts).symm
  · rw [hname, List.map_map]
    exact congrArg (· ++ [last]) (List.map_id'' (fun _ => String.toList_ofList) pieces).symm

omit hends hnames hslash in
theorem extension_ne_empty (h : c.nameOf parts ≠ "") : c.extension ≠ "" := by
  intro hext
  refine h ?_
  unfold nameOf
  dsimp only
  rw [if_pos (by rw [hext]; rfl)]

theorem isRefused_nameOf (hback : slashed (c.nameOf parts) = c.nameOf parts) :
    IsRefused (c.nameOf parts) ↔ c.nameOf parts = "" ∨ parts.getLast? = some (".." ++ c.extension) := by
  refine or_congr_right' fun hname => ?_
  obtain ⟨above, last, hparts, hpieces⟩ := splitAt_nameOf hends hnames hslash (extension_ne_empty hname)
  have hmem {part : String} (hpart : part ∈ above) : IsFileName part :=
    hnames part (hparts ▸ List.mem_append_left _ hpart)
  have hroot : ¬(c.nameOf parts).toList.head?.any isSlash := by
    rw [← isAbsolute_slashed, hback, Bool.not_eq_true, isAbsolute_ofText]
    intro hhead
    obtain ⟨rest, hrest⟩ := List.head?_eq_some_iff.mp hhead
    rw [hrest, Path.splitAt, if_pos rfl, Path.splitAt_eq_splitOn] at hpieces
    cases above with
    | nil => exact List.splitOn_ne_nil _ _ (List.cons.inj hpieces).2
    | cons first above =>
      exact (hmem List.mem_cons_self).component.ne_empty
        (String.toList_eq_nil_iff.mp (List.cons.inj hpieces).1.symm)
  have hup : ['.', '.'] ∈ (c.nameOf parts).toList.splitOnP isSlash ↔ last = ['.', '.'] := by
    rw [← splitAt_slashed, hback, hpieces, List.mem_append, List.mem_singleton]
    refine (or_iff_right fun hmap => ?_).trans eq_comm
    obtain ⟨part, hpart, hdots⟩ := List.mem_map.mp hmap
    exact (hmem hpart).goesDown.1 (String.toList_inj.mp hdots)
  have hlast : parts.getLast? = some (".." ++ c.extension) ↔ last = ['.', '.'] := by
    rw [hparts, List.getLast?_concat, Option.some.injEq, String.append_left_inj, ← String.toList_inj,
      String.toList_ofList]
    rfl
  rw [or_iff_right hroot, hup, hlast]

omit hslash in
theorem backslash_not_mem_nameOf (hne : c.nameOf parts ≠ "")
    (h : Path.componentsOf (slashed (c.nameOf parts) ++ c.extension).toList = parts) :
    '\\' ∉ (c.nameOf parts).toList := by
  have hparts : parts ≠ [] := by
    obtain ⟨above, name, rfl, -⟩ := hends
    simp
  have hslashed : (slashed (c.nameOf parts)).toList.count '\\' = 0 := by
    rw [toList_slashed, List.count_eq_zero, List.mem_map]
    rintro ⟨ch, -, hch⟩
    split_ifs at hch with hback
    · cases hch
    · exact hback hch
  have hfew := @Path.count_componentsOf_le '\\' (by decide) (slashed (c.nameOf parts) ++ c.extension).toList
  have hpath := @Path.count_flatten_splitAt '/' '\\' (by decide) ("/".intercalate parts).toList
  rw [Path.splitAt_intercalate (fun part hpart => (hnames part hpart).component) hparts,
    ← nameOf_append hends (extension_ne_empty hne), List.count_append] at hpath
  rw [h, hpath, String.toList_append, List.count_append, hslashed] at hfew
  exact List.count_eq_zero.mp (by omega)

/-- **A file is found by its name** if it can be told from this, and only then. -/
theorem sourceOf_nameOf : c.sourceOf (c.nameOf parts) = .ok (c.sourceAt parts) ↔ c.Addressable parts := by
  have hcomponents := Path.componentsOf_intercalate fun part hpart => (hnames part hpart).component
  have hfound (hrefused : ¬IsRefused (c.nameOf parts)) :
      c.sourceOf (c.nameOf parts) = .ok (c.sourceAt parts) ↔
        Path.componentsOf (slashed (c.nameOf parts) ++ c.extension).toList = parts := by
    rw [sourceOf_of_not_refused hrefused, sourceAt, Except.ok.injEq, Path.mk.injEq]
    simp
  constructor
  · intro h
    have hrefused : ¬IsRefused (c.nameOf parts) := by
      intro hrefused
      rw [sourceOf, plainTemplateName_eq, if_pos hrefused] at h
      cases h
    have hempty : c.nameOf parts ≠ "" := fun heq => hrefused (.inl heq)
    have hback : '\\' ∉ (c.nameOf parts).toList :=
      backslash_not_mem_nameOf hends hnames hempty ((hfound hrefused).mp h)
    have hslashed := slashed_eq_self hback
    rw [isRefused_nameOf hends hnames hslash hslashed, not_or] at hrefused
    exact ⟨hempty, hback, hrefused.2⟩
  · rintro ⟨hempty, hback, hup⟩
    have hslashed := slashed_eq_self hback
    have hrefused : ¬IsRefused (c.nameOf parts) := by
      rw [isRefused_nameOf hends hnames hslash hslashed, not_or]
      exact ⟨hempty, hup⟩
    rw [hfound hrefused, hslashed, String.toList_append, nameOf_append hends (extension_ne_empty hempty),
      hcomponents]

end Names

end Config

end Gabarit
