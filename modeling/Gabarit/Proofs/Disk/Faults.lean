import Gabarit.Proofs.Disk.Replace

/-!
# Faults of names

Only a path with a NUL in it makes a change fail for this reason. The names of temporary files have none,
if the name of the file has none.

* `locate_ne_nul`: following a path;
* **`replace_ne_nul`**: replacing a file.
-/

namespace Gabarit.Disk

variable {d d' : Disk} {p : Path} {bytes : List UInt8} {f : FileFault}

theorem follow_ne_nul (here : Place) (names : List String) : d.follow here names ≠ .error .nulInName := by
  induction names generalizing here with
  | nil => simp [follow]
  | cons name rest ih =>
    rw [follow]
    obtain _ | ⟨b, t⟩ | ⟨t⟩ := d.find? here
    · simp
    · simp
    · dsimp only
      split_ifs
      · exact ih _
      · simp
      · exact ih _

/-- A path without NULs can be asked about. -/
theorem locate_ne_nul (hp : hasNul p = false) : d.locate p ≠ .error .nulInName := by
  rw [locate, if_neg (by simp [hp])]
  split_ifs
  · simp
  · exact follow_ne_nul _ _

theorem ensureDirectory_ne_nul (hp : hasNul p = false) (h : ensureDirectory p d = .error f d') :
    f ≠ .nulInName := by
  rw [ensureDirectory_apply] at h
  split at h
  · rename_i hlocate
    cases h
    rintro rfl
    exact locate_ne_nul hp hlocate
  · split at h <;> cases h
    simp

theorem makeFrom_ne_nul {anchor : Anchor} {names : List String} (hp : hasNul ⟨anchor, names.reverse⟩ = false)
    (h : makeFrom anchor names d = .error f d') : f ≠ .nulInName := by
  induction names generalizing d with
  | nil => exact ensureDirectory_ne_nul hp h
  | cons name above ih =>
    have habove : hasNul ⟨anchor, above.reverse⟩ = false := by
      simp only [hasNul, List.reverse_cons, List.any_append, Bool.or_eq_false_iff] at hp
      exact hp.1
    rw [makeFrom_cons_apply] at h
    split at h
    · cases h
    · rename_i hensure
      split_ifs at h
      · cases h
        exact ensureDirectory_ne_nul hp hensure
      · split at h
        · rename_i hmake
          cases h
          exact ih habove hmake
        · exact ensureDirectory_ne_nul hp h

theorem hasNul_temporary (hp : hasNul p = false) (k : ℕ) :
    hasNul (p.parent.child (temporaryName p.name k)) = false := by
  have hparts : ∀ name ∈ p.parts, '\x00' ∉ name.toList := by
    simpa [hasNul] using hp
  have hname : '\x00' ∉ p.name.toList := by
    rw [Path.name]
    obtain h | ⟨names, name, h⟩ := List.eq_nil_or_concat p.parts
    · simp [h]
    · rw [h, List.concat_eq_append, List.getLastD_concat]
      exact hparts name (by simp [h])
  have htemporary : '\x00' ∉ (temporaryName p.name k).toList := by
    rw [toList_temporaryName, List.mem_append, not_or]
    exact ⟨by simp [hname], not_mem_of_digits (Text.digits_zeroPadded 8 k) rfl⟩
  have hchild : p.parent.child (temporaryName p.name k) =
      ⟨p.anchor, p.parts.dropLast ++ (Path.ofText (temporaryName p.name k)).parts⟩ := by
    obtain ⟨above, stem, -, hcomponents⟩ := exists_components_temporaryName p.name
    rw [Path.child, hcomponents]
    rfl
  rw [hchild, hasNul, List.any_append, Bool.or_eq_false_iff, List.any_eq_false, List.any_eq_false]
  refine ⟨fun name hname => ?_, fun name hname => ?_⟩
  · simpa using hparts name (List.dropLast_subset _ hname)
  · obtain ⟨piece, hpiece, rfl⟩ := List.mem_map.mp hname
    have := (List.mem_filter.mp hpiece).1
    simpa using fun hc => htemporary (Path.mem_of_mem_splitAt this hc)

theorem write_ne_nul (hp : hasNul p = false) (h : write p bytes d = .error f d') : f ≠ .nulInName := by
  rw [write_apply] at h
  split at h
  · rename_i hlocate
    cases h
    rintro rfl
    exact locate_ne_nul hp hlocate
  · split at h <;> cases h
    simp

theorem remove_ne_nul (hp : hasNul p = false) (h : remove p d = .error f d') : f ≠ .nulInName := by
  rw [remove_apply] at h
  split at h
  · rename_i hlocate
    cases h
    rintro rfl
    exact locate_ne_nul hp hlocate
  · split_ifs at h
    cases h
    simp

theorem rename_ne_nul {source target : Path} (hsource : hasNul source = false)
    (htarget : hasNul target = false) (h : rename source target d = .error f d') : f ≠ .nulInName := by
  rw [rename_apply] at h
  split_ifs at h
  · cases h
    simp
  · split at h
    · rename_i hlocate
      cases h
      rintro rfl
      exact locate_ne_nul hsource hlocate
    · split at h
      · rename_i hlocate
        cases h
        rintro rfl
        exact locate_ne_nul htarget hlocate
      · split at h
        · cases h
          simp
        · split at h <;> cases h
          simp

/-- A file whose path has no NUL is not refused for one. -/
theorem replace_ne_nul (hp : hasNul p = false) (h : replace p bytes d = .error f d') :
    f ≠ .nulInName := by
  have hparent : hasNul ⟨p.parent.anchor, p.parent.parts.reverse.reverse⟩ = false := by
    rw [List.reverse_reverse, hasNul, List.any_eq_false]
    intro name hname
    exact (List.any_eq_false.mp hp) name (List.dropLast_subset _ hname)
  have htemporary (d : Disk) : hasNul (p.parent.child (freshName d p.parent p.name)) = false := by
    obtain ⟨k, hk, -, -⟩ := exists_freshName d p.parent p.name
    exact hk ▸ hasNul_temporary hp k
  rw [replace_apply] at h
  cases hmake : makeDirectories p.parent d with
  | error g d₁ =>
    rw [hmake] at h
    cases h
    exact makeFrom_ne_nul hparent hmake
  | ok a d₁ =>
    rw [hmake] at h
    dsimp only at h
    rw [replaceBeside_apply] at h
    split at h
    · rename_i hwrite
      cases h
      exact write_ne_nul (htemporary d₁) hwrite
    · split at h
      · cases h
      · rename_i hrename
        split at h <;> rename_i hremove <;> cases h
        · exact rename_ne_nul (htemporary d₁) hp hrename
        · exact remove_ne_nul (htemporary d₁) hremove

end Gabarit.Disk
