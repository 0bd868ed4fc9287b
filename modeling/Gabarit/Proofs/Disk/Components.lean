import Gabarit.Disk.Path
import Mathlib.Data.List.Basic
import Mathlib.Data.List.Flatten

/-!
# Components of paths

How a text falls into the components of a path, and components make up a text.

* `Path.splitAt_eq_splitOn`, `Path.not_mem_of_mem_splitOnP`: the pieces between separators;
* `Path.IsComponent`: a name that is a component of the path it is written in;
* `Path.mem_componentsOf`, `Path.isComponent_of_mem`: which pieces of a text are components;
* `Path.splitAt_intercalate`, `Path.componentsOf_intercalate`: components with slashes between them are read
  back;
* `Path.count_componentsOf_le`: the components of a text have no other characters than the text;
* `Path.exists_componentsOf_append`: what is added to a text without a slash goes to its last component.
-/

namespace Gabarit.Path

variable {name : String} {cs piece : List Char} {parts : List String}

/-! ## Pieces -/

theorem splitAt_of_not_mem {sep : Char} (h : sep ∉ cs) : splitAt sep cs = [cs] := by
  induction cs with
  | nil => rfl
  | cons c cs ih =>
    rw [List.mem_cons, not_or] at h
    rw [splitAt, if_neg (Ne.symm h.1), ih h.2]

/-- What is added to a text without the separator goes to its last piece. -/
theorem exists_splitAt_append (sep : Char) (xs : List Char) :
    ∃ pieces stem, sep ∉ stem ∧ (sep ∉ xs → stem = xs) ∧
      ∀ ys, sep ∉ ys → splitAt sep (xs ++ ys) = pieces ++ [stem ++ ys] := by
  induction xs with
  | nil => exact ⟨[], [], List.not_mem_nil, fun _ => rfl, fun ys hys => splitAt_of_not_mem hys⟩
  | cons c xs ih =>
    obtain ⟨pieces, stem, hstem, hxs, hsplit⟩ := ih
    by_cases hc : c = sep
    · refine ⟨[] :: pieces, stem, hstem, fun h => absurd hc.symm ?_, fun ys hys => ?_⟩
      · exact fun hsep => h (hsep ▸ List.mem_cons_self)
      · rw [List.cons_append, splitAt, if_pos hc, hsplit ys hys, List.cons_append]
    · cases pieces with
      | nil =>
        refine ⟨[], c :: stem, ?_, fun h => ?_, fun ys hys => ?_⟩
        · simp [Ne.symm hc, hstem]
        · rw [hxs fun hmem => h (List.mem_cons_of_mem _ hmem)]
        · rw [List.cons_append, splitAt, if_neg hc, hsplit ys hys]
          rfl
      | cons piece pieces =>
        refine ⟨(c :: piece) :: pieces, stem, hstem, fun h => ?_, fun ys hys => ?_⟩
        · -- without the separator there is only one piece
          have hmem : sep ∉ xs := fun hmem => h (List.mem_cons_of_mem _ hmem)
          have hone := hsplit [] List.not_mem_nil
          rw [List.append_nil, splitAt_of_not_mem hmem] at hone
          simpa using congrArg List.length hone
        · rw [List.cons_append, splitAt, if_neg hc, hsplit ys hys]
          rfl

theorem mem_of_mem_splitAt {sep c : Char} (hpiece : piece ∈ splitAt sep cs)
    (hc : c ∈ piece) : c ∈ cs := by
  induction cs generalizing piece with
  | nil =>
    rw [splitAt, List.mem_singleton] at hpiece
    exact hpiece ▸ hc
  | cons d cs ih =>
    rw [splitAt] at hpiece
    split_ifs at hpiece
    · obtain rfl | hpiece := List.mem_cons.mp hpiece
      · cases hc
      · exact List.mem_cons_of_mem _ (ih hpiece hc)
    · cases hsplit : splitAt sep cs with
      | nil =>
        rw [hsplit, List.mem_singleton] at hpiece
        subst hpiece
        exact List.mem_cons.mpr (.inl (List.mem_singleton.mp hc))
      | cons first pieces =>
        rw [hsplit] at hpiece ih
        obtain rfl | hpiece := List.mem_cons.mp hpiece
        · obtain rfl | hc := List.mem_cons.mp hc
          · exact List.mem_cons_self
          · exact List.mem_cons_of_mem _ (ih List.mem_cons_self hc)
        · exact List.mem_cons_of_mem _ (ih (List.mem_cons_of_mem _ hpiece) hc)

theorem splitAt_eq_splitOn (sep : Char) (cs : List Char) : splitAt sep cs = cs.splitOn sep := by
  induction cs with
  | nil => rfl
  | cons c cs ih =>
    rw [splitAt, List.splitOn_cons_eq_if_modifyHead, ih]
    simp only [beq_iff_eq]
    split_ifs
    · rfl
    · cases h : cs.splitOn sep with
      | nil => exact absurd h (List.splitOn_ne_nil _ _)
      | cons piece pieces => rfl

theorem not_mem_of_mem_splitOnP {p : Char → Bool} (h : piece ∈ cs.splitOnP p) : ∀ c ∈ piece, p c = false := by
  induction cs generalizing piece with
  | nil => 
    rw [List.splitOnP_nil, List.mem_singleton] at h
    simp [h]
  | cons c cs ih =>
    rw [List.splitOnP_cons_eq_if_modifyHead] at h
    split_ifs at h with hc
    · obtain rfl | h := List.mem_cons.mp h
      · exact fun c hc => absurd hc List.not_mem_nil
      · exact ih h
    · cases hsplit : cs.splitOnP p with
      | nil => exact absurd hsplit (List.splitOnP_ne_nil _ _)
      | cons first pieces =>
        rw [hsplit] at h ih
        obtain rfl | h := List.mem_cons.mp h
        · simpa [hc] using ih List.mem_cons_self
        · exact ih (List.mem_cons_of_mem _ h)

/-! ## Components -/

/-- The name is a component of a path that it is written in. -/
structure IsComponent (name : String) : Prop where
  ne_empty : name ≠ ""
  ne_dot : name ≠ "."
  no_slash : '/' ∉ name.toList

instance : DecidablePred IsComponent := fun name =>
  decidable_of_iff (name ≠ "" ∧ name ≠ "." ∧ '/' ∉ name.toList)
    ⟨fun ⟨hempty, hdot, hslash⟩ => ⟨hempty, hdot, hslash⟩, fun h => ⟨h.ne_empty, h.ne_dot, h.no_slash⟩⟩

@[simp] theorem parts_ofText (s : String) : (ofText s).parts = componentsOf s.toList := rfl

theorem mem_componentsOf :
    name ∈ componentsOf cs ↔ name.toList ∈ splitAt '/' cs ∧ name ≠ "" ∧ name ≠ "." := by
  have hempty : name ≠ "" ↔ name.toList ≠ [] := not_congr String.toList_eq_nil_iff.symm
  have hdot : name ≠ "." ↔ name.toList ≠ ['.'] := not_congr (@String.toList_inj name ".").symm
  simp only [componentsOf, List.mem_map, List.mem_filter, decide_eq_true_eq, hempty, hdot]
  constructor
  · rintro ⟨piece, hpiece, rfl⟩
    rwa [String.toList_ofList]
  · exact fun h => ⟨_, h, String.ofList_toList⟩

theorem isComponent_of_mem (h : name ∈ componentsOf cs) : IsComponent name := by
  obtain ⟨hpiece, hempty, hdot⟩ := mem_componentsOf.mp h
  rw [splitAt_eq_splitOn, List.splitOn_eq_splitOnP] at hpiece
  exact ⟨hempty, hdot, fun hslash => by simpa using not_mem_of_mem_splitOnP hpiece _ hslash⟩

/-- The pieces of components with slashes between them. -/
theorem splitAt_intercalate (h : ∀ part ∈ parts, IsComponent part) (hne : parts ≠ []) :
    splitAt '/' ("/".intercalate parts).toList = parts.map String.toList := by
  rw [splitAt_eq_splitOn, String.toList_intercalate]
  exact List.splitOn_intercalate '/' (by simpa using fun part hpart => (h part hpart).no_slash) (by simpa)

theorem componentsOf_intercalate (h : ∀ part ∈ parts, IsComponent part) :
    componentsOf ("/".intercalate parts).toList = parts := by
  obtain rfl | hne := eq_or_ne parts []
  · rfl
  have hkeep : (parts.map String.toList).filter (fun p => p ≠ [] ∧ p ≠ ['.']) = parts.map String.toList := by
    refine List.filter_eq_self.mpr fun piece hpiece => ?_
    obtain ⟨part, hpart, rfl⟩ := List.mem_map.mp hpiece
    have hdot : part.toList ≠ ".".toList := fun heq => (h part hpart).ne_dot (String.toList_inj.mp heq)
    exact decide_eq_true ⟨fun heq => (h part hpart).ne_empty (String.toList_eq_nil_iff.mp heq), hdot⟩
  rw [componentsOf, splitAt_intercalate h hne, hkeep, List.map_map]
  exact List.map_id'' (fun _ => String.ofList_toList) parts

theorem count_flatten_splitAt {sep c : Char} (h : c ≠ sep) (cs : List Char) :
    (splitAt sep cs).flatten.count c = cs.count c := by
  induction cs with
  | nil => rfl
  | cons d cs ih =>
    rw [splitAt]
    split_ifs with hd
    · rw [List.flatten_cons, List.nil_append, ih, hd, List.count_cons_of_ne h.symm]
    · cases hsplit : splitAt sep cs with
      | nil =>
        rw [hsplit] at ih
        simp only [List.flatten_nil, List.count_nil, List.flatten_cons, List.append_nil] at ih ⊢
        rw [List.count_cons, List.count_cons, ← ih, List.count_nil]
      | cons piece pieces =>
        rw [hsplit] at ih
        simp only [List.flatten_cons, List.cons_append, List.count_cons] at ih ⊢
        rw [ih]

theorem count_componentsOf_le {c : Char} (h : c ≠ '/') (cs : List Char) :
    ((componentsOf cs).map String.toList).flatten.count c ≤ cs.count c := by
  have hpieces : (componentsOf cs).map String.toList =
      (splitAt '/' cs).filter fun p => p ≠ [] ∧ p ≠ ['.'] := by
    rw [componentsOf, List.map_map]
    exact List.map_id'' (fun _ => String.toList_ofList) _
  rw [hpieces, ← count_flatten_splitAt h cs]
  exact (List.filter_sublist.flatten).count_le c

theorem componentsOf_of_not_mem (hslash : '/' ∉ cs) (hempty : cs ≠ []) (hdot : cs ≠ ['.']) :
    componentsOf cs = [String.ofList cs] := by
  rw [componentsOf, splitAt_of_not_mem hslash, List.filter_singleton]
  simp [hempty, hdot]

/-- What is added to a text without a slash goes to its last component. -/
theorem exists_componentsOf_append (cs : List Char) :
    ∃ above stem, '/' ∉ stem ∧ ('/' ∉ cs → stem = cs) ∧ (∀ part ∈ above, part ∈ componentsOf cs) ∧
      ∀ ys, '/' ∉ ys → stem ++ ys ≠ [] → stem ++ ys ≠ ['.'] →
        componentsOf (cs ++ ys) = above ++ [String.ofList (stem ++ ys)] := by
  obtain ⟨pieces, stem, hstem, hcs, hsplit⟩ := exists_splitAt_append '/' cs
  refine ⟨(pieces.filter fun p => p ≠ [] ∧ p ≠ ['.']).map String.ofList, stem, hstem, hcs,
    fun part hpart => ?_, fun ys hys hempty hdot => ?_⟩
  · have hone := hsplit [] List.not_mem_nil
    rw [List.append_nil] at hone
    rw [componentsOf, hone, List.filter_append, List.map_append]
    exact List.mem_append_left _ hpart
  · have hlast : [stem ++ ys].filter (fun p => p ≠ [] ∧ p ≠ ['.']) = [stem ++ ys] := by
      rw [List.filter_singleton]
      simp only [ne_eq, hempty, hdot, not_false_eq_true, and_self, decide_true, cond_true]
    rw [componentsOf, hsplit ys hys, List.filter_append, hlast, List.map_append]
    rfl

end Gabarit.Path
