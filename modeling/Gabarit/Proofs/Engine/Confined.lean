import Gabarit.Proofs.Disk.Components
import Gabarit.Proofs.Engine.Resolve

/-!
# Names stay in their directories

* `isSlash`, `slashed`: the characters between the pieces of a name, and the name with slashes there;
* `IsRefused`, `plainTemplateName_eq`: the names of no template;
* `IsExtension`: extensions of a dot and more, which end a component and do not climb up;
* `Config.exists_source`, `Config.exists_artifact`: where a template and its artifact are;
* **`Config.paths_confined`**: a name is refused, or its source is below the directory of templates and its
  artifact is directly below that of artifacts.
-/

namespace Gabarit

variable {name : String}

/-! ## Names -/

/-- A slash in either direction. -/
def isSlash (c : Char) : Bool := c = '/' || c = '\\'

/-- The name with slashes for its backslashes. -/
def slashed (name : String) : String :=
  String.ofList (name.toList.map fun c => if c = '\\' then '/' else c)

/-- The name of no template: it is empty, starts with a slash, or climbs up between two of them. -/
def IsRefused (name : String) : Prop :=
  name = "" ∨ name.toList.head?.any isSlash ∨ ['.', '.'] ∈ name.toList.splitOnP isSlash

instance : DecidablePred IsRefused := fun _ => inferInstanceAs (Decidable (_ ∨ _ ∨ _))

theorem toList_slashed (name : String) :
    (slashed name).toList = name.toList.map fun c => if c = '\\' then '/' else c :=
  String.toList_ofList

theorem slashed_eq_self (h : '\\' ∉ name.toList) : slashed name = name := by
  have hkeep : name.toList.map (fun c => if c = '\\' then '/' else c) = name.toList := by
    refine (List.map_congr_left fun c hc => if_neg ?_).trans (List.map_id _)
    rintro rfl
    exact h hc
  rw [slashed, hkeep, String.ofList_toList]

theorem splitAt_slashed (name : String) :
    Path.splitAt '/' (slashed name).toList = name.toList.splitOnP isSlash := by
  rw [toList_slashed, Path.splitAt_eq_splitOn]
  induction name.toList with
  | nil => rfl
  | cons c cs ih =>
    rw [List.map_cons, List.splitOn_cons_eq_if_modifyHead, List.splitOnP_cons_eq_if_modifyHead, ih]
    by_cases hback : c = '\\'
    · simp [isSlash, hback]
    · simp [isSlash, hback]

theorem slashed_eq_empty : slashed name = "" ↔ name = "" := by
  rw [← String.toList_eq_nil_iff, toList_slashed, List.map_eq_nil_iff, String.toList_eq_nil_iff]

theorem isAbsolute_slashed :
    (Path.ofText (slashed name)).isAbsolute = true ↔ name.toList.head?.any isSlash := by
  rw [← not_iff_not, Bool.not_eq_true, Config.isAbsolute_ofText, toList_slashed, List.head?_map]
  cases name.toList.head? with
  | none => simp
  | some c =>
    by_cases hback : c = '\\'
    · simp [isSlash, hback]
    · simp [isSlash, hback]

theorem up_mem_slashed :
    ".." ∈ (Path.ofText (slashed name)).parts ↔ ['.', '.'] ∈ name.toList.splitOnP isSlash := by
  rw [Path.parts_ofText, Path.mem_componentsOf, splitAt_slashed]
  exact and_iff_left ⟨by decide, by decide⟩

theorem plainTemplateName_eq (name : String) : plainTemplateName name =
    if IsRefused name then .error (.error (.notFound name [])) else .ok (slashed name) := by
  have hrefused : slashed name = "" ∨ (Path.ofText (slashed name)).isAbsolute ∨
      ".." ∈ (Path.ofText (slashed name)).parts ↔ IsRefused name :=
    or_congr slashed_eq_empty (or_congr isAbsolute_slashed up_mem_slashed)
  unfold plainTemplateName
  dsimp only
  exact if_congr hrefused rfl rfl

/-! ## Paths -/

/-- An extension that starts with a dot and another character. -/
def IsExtension (s : String) : Prop :=
  ∃ c rest, s.toList = '.' :: c :: rest ∧ c ≠ '.' ∧ '/' ∉ s.toList

/-- What ends in an extension is a component that does not climb up. -/
theorem IsExtension.append {ext : String} (h : IsExtension ext) {stem : List Char} (hstem : '/' ∉ stem) :
    Path.IsComponent (String.ofList (stem ++ ext.toList)) ∧ String.ofList (stem ++ ext.toList) ≠ ".." := by
  obtain ⟨c, rest, hext, hc, hslash⟩ := h
  have hlength : 2 ≤ (stem ++ ext.toList).length := by
    rw [hext, List.length_append, List.length_cons, List.length_cons]
    omega
  have hne {s : String} (hs : s.toList.length < 2) : String.ofList (stem ++ ext.toList) ≠ s := by
    rintro rfl
    rw [String.toList_ofList] at hs
    omega
  refine ⟨⟨hne (by decide), hne (by decide), ?_⟩, fun hup => ?_⟩
  · rw [String.toList_ofList, List.mem_append, not_or]
    exact ⟨hstem, hslash⟩
  · have hchars := congrArg String.toList hup
    rw [String.toList_ofList, hext] at hchars
    -- two characters leave no room before the extension
    obtain _ | ⟨a, stem⟩ := stem
    · exact hc (List.cons.inj (List.cons.inj hchars).2).1
    · have := congrArg List.length hchars
      simp only [List.cons_append, List.length_cons, List.length_append] at this
      change _ = 2 at this
      omega

theorem Path.child_eq {text : String} (dir : Path) (h : (ofText text).isAbsolute = false) :
    dir.child text = ⟨dir.anchor, dir.parts ++ componentsOf text.toList⟩ := by
  rw [child, join, if_neg (by rw [h]; exact Bool.false_ne_true)]
  rfl

namespace Config

variable {c : Config}

theorem sourceOf_of_not_refused (h : ¬IsRefused name) :
    c.sourceOf name = .ok ⟨c.templateDir.anchor,
      c.templateDir.parts ++ Path.componentsOf (slashed name ++ c.extension).toList⟩ := by
  have hplain := (plainTemplateName_eq name).trans (if_neg h)
  obtain ⟨hne, habsolute⟩ := plainTemplateName_eq_ok hplain
  rw [sourceOf, hplain]
  exact congrArg Except.ok (Path.child_eq _ (isAbsolute_ofText_append hne habsolute))

theorem exists_source (hext : IsExtension c.extension) (h : ¬IsRefused name) :
    ∃ parts, parts ≠ [] ∧ (∀ part ∈ parts, Path.IsComponent part ∧ part ≠ "..") ∧
      c.sourceOf name = .ok ⟨c.templateDir.anchor, c.templateDir.parts ++ parts⟩ := by
  obtain ⟨above, stem, hstem, -, habove, hadd⟩ := Path.exists_componentsOf_append (slashed name).toList
  obtain ⟨hlast, hlastup⟩ := hext.append hstem
  have hparts : Path.componentsOf (slashed name ++ c.extension).toList =
      above ++ [String.ofList (stem ++ c.extension.toList)] := by
    obtain ⟨-, -, -, -, hslash⟩ := hext
    rw [String.toList_append]
    exact hadd _ hslash (fun heq => hlast.ne_empty (by rw [heq])) fun heq => hlast.ne_dot (by rw [heq])
  refine ⟨above ++ [String.ofList (stem ++ c.extension.toList)], by simp, fun part hpart => ?_,
    hparts ▸ sourceOf_of_not_refused h⟩
  obtain hpart | hpart := List.mem_append.mp hpart
  · refine ⟨Path.isComponent_of_mem (habove part hpart), ?_⟩
    rintro rfl
    have hup : ".." ∈ (Path.ofText (slashed name)).parts := by
      rw [Path.parts_ofText]
      exact habove _ hpart
    exact h (.inr (.inr (up_mem_slashed.mp hup)))
  · rw [List.mem_singleton.mp hpart]
    exact ⟨hlast, hlastup⟩

theorem slash_not_mem_flatName (name : String) : '/' ∉ (flatName name).toList := by
  rw [flatName, String.toList_ofList, List.mem_map]
  rintro ⟨ch, -, hch⟩
  split_ifs at hch with hslash
  · cases hch
  · exact hslash hch

theorem exists_artifact (hcache : IsExtension c.cacheExtension) (h : ¬IsRefused name) :
    ∃ file, Path.IsComponent file ∧ file ≠ ".." ∧
      c.artifactOf name = .ok ⟨c.cacheDir.anchor, c.cacheDir.parts ++ [file]⟩ := by
  have hfree := slash_not_mem_flatName (slashed name)
  obtain ⟨hfile, hup⟩ := hcache.append hfree
  rw [← String.toList_append, String.ofList_toList] at hfile hup
  have habsolute : (Path.ofText (flatName (slashed name) ++ c.cacheExtension)).isAbsolute = false :=
    isAbsolute_ofText _ |>.mpr fun hhead => hfile.no_slash (List.mem_of_head? hhead)
  have hparts : Path.componentsOf (flatName (slashed name) ++ c.cacheExtension).toList =
      [flatName (slashed name) ++ c.cacheExtension] := by
    rw [Path.componentsOf_of_not_mem hfile.no_slash (String.toList_eq_nil_iff.not.mpr hfile.ne_empty)
      fun heq => hfile.ne_dot (String.toList_inj.mp heq), String.ofList_toList]
  refine ⟨flatName (slashed name) ++ c.cacheExtension, hfile, hup, ?_⟩
  rw [artifactOf, plainTemplateName_eq, if_neg h]
  exact congrArg Except.ok ((Path.child_eq _ habsolute).trans (by rw [hparts]))

/-- **Names stay in their directories.** With extensions of a dot and more, a name is refused by both
paths or by none. The source of a template is below the directory of templates, with no component that
climbs up, and its artifact is directly below the directory of artifacts. -/
theorem paths_confined (c : Config) (hext : IsExtension c.extension) (hcache : IsExtension c.cacheExtension)
    (name : String) :
    if IsRefused name then
      c.sourceOf name = .error (.error (.notFound name [])) ∧
        c.artifactOf name = .error (.error (.notFound name []))
    else
      (∃ parts, parts ≠ [] ∧ (∀ part ∈ parts, Path.IsComponent part ∧ part ≠ "..") ∧
        c.sourceOf name = .ok ⟨c.templateDir.anchor, c.templateDir.parts ++ parts⟩) ∧
      ∃ file, Path.IsComponent file ∧ file ≠ ".." ∧
        c.artifactOf name = .ok ⟨c.cacheDir.anchor, c.cacheDir.parts ++ [file]⟩ := by
  split_ifs with hrefused
  · rw [sourceOf, artifactOf, plainTemplateName_eq, if_pos hrefused]
    exact ⟨rfl, rfl⟩
  · exact ⟨exists_source hext hrefused, exists_artifact hcache hrefused⟩

/-- Dots, backslashes and slashes at the end of a name do not lead out either. -/
theorem paths_confined_dots :
    let c : Config := { extension := ".html", cacheExtension := ".json" }
    IsExtension c.extension ∧ IsExtension c.cacheExtension ∧
      (¬IsRefused "a\\./" ∧ ∃ parts, parts ≠ [] ∧ (∀ part ∈ parts, Path.IsComponent part ∧ part ≠ "..") ∧
        c.sourceOf "a\\./" = .ok ⟨c.templateDir.anchor, c.templateDir.parts ++ parts⟩) ∧
      IsRefused "a\\.." ∧ c.artifactOf "a\\.." = .error (.error (.notFound "a\\.." [])) := by
  intro c
  have hext : IsExtension c.extension := ⟨'h', ['t', 'm', 'l'], by decide, by decide, by decide⟩
  have hcache : IsExtension c.cacheExtension := ⟨'j', ['s', 'o', 'n'], by decide, by decide, by decide⟩
  have hstay : ¬IsRefused "a\\./" := by decide
  have hleave : IsRefused "a\\.." := by decide
  have hin := paths_confined c hext hcache "a\\./"
  have hout := paths_confined c hext hcache "a\\.."
  rw [if_neg hstay] at hin
  rw [if_pos hleave] at hout
  exact ⟨hext, hcache, ⟨hstay, hin.1⟩, hleave, hout.2⟩

end Config

end Gabarit
