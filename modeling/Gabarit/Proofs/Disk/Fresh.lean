import Gabarit.Disk.Write
import Gabarit.Proofs.Disk.Components
import Gabarit.Proofs.Disk.Tree
import Gabarit.Proofs.Number.Digits
import Mathlib.Data.List.Nodup
import Mathlib.Data.List.Perm.Subperm

/-!
# Names for the time of writing

* `exists_components_temporaryName`: such a name as the components of a path, of which the last one tells
  its number;
* `Taken`, `le_length_of_taken`: a name that is taken, and that a disk has no room for too many of them;
* **`freshName_eq`**: the fresh name is the first one that is not taken.
-/

namespace Gabarit.Disk

open Text

/-! ## Components -/

theorem toList_temporaryName (name : String) (k : ℕ) :
    (temporaryName name k).toList = ('.' :: (name.toList ++ ['.'])) ++ zeroPadded 8 k := by
  simp [temporaryName, numeral, zeroPadded]

theorem length_zeroPadded (width n : ℕ) : width ≤ (zeroPadded width n).length := by
  rw [zeroPadded, List.length_append, List.length_replicate]
  omega

theorem not_mem_of_digits {c : Char} {cs : List Char} (h : Digits cs) (hc : c.isDigit = false) :
    c ∉ cs := by
  intro hmem
  rw [h c hmem] at hc
  cases hc

/-- The last component of such a name, after what is the same for all numbers. -/
def numbered (stem : List Char) (k : ℕ) : String := String.ofList (stem ++ zeroPadded 8 k)

theorem numbered_injective (stem : List Char) : Function.Injective (numbered stem) := by
  intro j k h
  have hchars := List.append_cancel_left (String.ofList_injective h)
  rw [← numeralValue_zeroPadded 8 j, hchars, numeralValue_zeroPadded]

theorem numbered_ne_up (stem : List Char) (k : ℕ) : numbered stem k ≠ ".." := by
  intro h
  have hlen := congrArg (fun s : String => s.toList.length) h
  have := length_zeroPadded 8 k
  simp only [numbered, String.toList_ofList, List.length_append] at hlen
  change _ = 2 at hlen
  omega

theorem exists_components_temporaryName (name : String) :
    ∃ above stem, (∀ k, numbered stem k ≠ name) ∧
      ∀ k, Path.ofText (temporaryName name k) = ⟨.relative, above ++ [numbered stem k]⟩ := by
  obtain ⟨above, stem, hstem, hname, -, hadd⟩ :=
    Path.exists_componentsOf_append ('.' :: (name.toList ++ ['.']))
  have hslash (k : ℕ) : '/' ∉ zeroPadded 8 k := not_mem_of_digits (digits_zeroPadded 8 k) rfl
  refine ⟨above, stem, fun k hk => ?_, fun k => ?_⟩
  · -- a name without slashes is shorter, and the component has no slash
    have hchars : stem ++ zeroPadded 8 k = name.toList := by rw [← hk, numbered, String.toList_ofList]
    have hfree : '/' ∉ name.toList := by
      rw [← hchars, List.mem_append, not_or]
      exact ⟨hstem, hslash k⟩
    have hlen := congrArg List.length hchars
    rw [hname (by simp [hfree])] at hlen
    simp only [List.length_append, List.length_cons] at hlen
    omega
  · have hlong := length_zeroPadded 8 k
    have hlast : stem ++ zeroPadded 8 k ≠ [] ∧ stem ++ zeroPadded 8 k ≠ ['.'] := by
      constructor <;>
      · intro h
        have := congrArg List.length h
        simp only [List.length_append, List.length_cons, List.length_nil] at this
        omega
    rw [Path.ofText, toList_temporaryName, hadd _ (hslash k) hlast.1 hlast.2]
    rfl

theorem place_child {d : Disk} (p : Path) {q : Path} (hq : q.isAbsolute = false) :
    d.place (p.join q) = climb (d.place p) q.parts := by
  rw [Path.join, if_neg (by simp [hq]), place, climb_append]
  rfl

/-- The places of such names in a directory. -/
theorem exists_place_temporaryName (d : Disk) (directory : Path) (name : String) :
    ∃ base stem, (∀ k, numbered stem k ≠ name) ∧
      ∀ k, d.place (directory.child (temporaryName name k)) = base ++ [numbered stem k] := by
  obtain ⟨above, stem, hne, hparts⟩ := exists_components_temporaryName name
  refine ⟨climb (d.place directory) above, stem, hne, fun k => ?_⟩
  rw [Path.child, hparts, place_child directory rfl]
  dsimp only
  rw [climb_append, climb, if_neg (numbered_ne_up stem k), climb]

/-! ## Names that are taken -/

/-- Something has the `k`-th name. -/
def Taken (d : Disk) (directory : Path) (name : String) (k : ℕ) : Prop :=
  ∃ e, d.stat (directory.child (temporaryName name k)) = .ok e

variable {d : Disk} {directory : Path} {name : String}

theorem le_length_of_taken {n : ℕ} (h : ∀ k < n, Taken d directory name k) : n ≤ d.entries.length := by
  obtain ⟨base, stem, -, hplace⟩ := exists_place_temporaryName d directory name
  let places := (List.range n).map fun k => base ++ [numbered stem k]
  have hnodup : places.Nodup := by
    refine List.Nodup.map (fun j k hjk => ?_) List.nodup_range
    exact numbered_injective stem (by simpa using hjk)
  have hsub : places ⊆ d.entries.map (·.1) := by
    intro p hp
    obtain ⟨k, hk, rfl⟩ := List.mem_map.mp hp
    obtain ⟨e, he⟩ := h k (List.mem_range.mp hk)
    obtain ⟨r, hr, hfind⟩ := stat_eq_ok.mp he
    rw [locate_place hr, hplace, find?_of_ne _ (by simp)] at hfind
    obtain ⟨before, after, hentries, -⟩ := List.lookup_eq_some_iff.mp hfind
    exact List.mem_map.mpr ⟨_, hentries ▸ List.mem_append_right _ List.mem_cons_self, rfl⟩
  have hlen := (hnodup.subperm hsub).length_le
  simpa [places] using hlen

theorem freshName_of_find? {taken : ℕ → Bool} (h : ∀ k, taken k = true ↔ Taken d directory name k) :
    freshName d directory name = temporaryName name
      (((List.range (d.entries.length + 1)).find? fun k => !taken k).getD 0) := by
  rw [freshName]
  congr 4
  funext k
  rw [Bool.not_inj_iff, Bool.eq_iff_iff, h, Taken]
  beta_reduce
  cases d.stat (directory.child (temporaryName name k)) <;> simp

/-- **The fresh name is the first one that is not taken.** -/
theorem freshName_eq {k : ℕ} (hfree : ¬Taken d directory name k)
    (htaken : ∀ j < k, Taken d directory name j) :
    freshName d directory name = temporaryName name k := by
  classical
  have hrange : k < d.entries.length + 1 := Nat.lt_succ_of_le (le_length_of_taken htaken)
  have hfirst : (List.range (d.entries.length + 1)).find? (fun j => !decide (Taken d directory name j)) =
      some k := by
    rw [List.find?_range_eq_some]
    refine ⟨by simpa using hfree, List.mem_range.mpr hrange, fun j hj => by simpa using htaken j hj⟩
  rw [freshName_of_find? fun _ => decide_eq_true_iff, hfirst, Option.getD_some]

theorem exists_freshName (d : Disk) (directory : Path) (name : String) :
    ∃ k, freshName d directory name = temporaryName name k ∧ ¬Taken d directory name k ∧
      ∀ j < k, Taken d directory name j := by
  classical
  have hfree : ∃ k, ¬Taken d directory name k := by
    by_contra hall
    have hlen : d.entries.length + 1 ≤ d.entries.length :=
      le_length_of_taken fun k _ => not_not.mp (not_exists.mp hall k)
    omega
  have hlow : ∀ j < Nat.find hfree, Taken d directory name j := fun j hj =>
    not_not.mp (Nat.find_min hfree hj)
  exact ⟨Nat.find hfree, freshName_eq (Nat.find_spec hfree) hlow, Nat.find_spec hfree, hlow⟩

end Gabarit.Disk
