import Gabarit.Proofs.Disk.Replace

/-!
# Replacing a file again

* **`replace_again`**: a file that was replaced can be replaced again;
* **`replace_again_error`**: what could not be replaced cannot be replaced later.
-/

namespace Gabarit.Disk

variable {d d' : Disk} {p : Path} {bytes : List UInt8} {f : FileFault}

/-- What could not be replaced cannot be replaced later. -/
theorem replace_again_error (hd : d.IsTree) (h : replace p bytes d = .error f d') :
    ∃ f' d'', replace p bytes d' = .error f' d'' := by
  rw [replace_apply] at h
  cases hmake : makeDirectories p.parent d with
  | error f d₁ =>
    rw [hmake] at h
    cases h
    obtain ⟨f', hagain⟩ := makeFrom_again hd hmake
    exact ⟨f', d', by rw [replace_apply, makeDirectories, hagain]⟩
  | ok a d₁ =>
    obtain ⟨hmade, hleads⟩ := makeDirectories_ok hd hmake
    rw [hmake] at h
    dsimp only at h
    have halike := replaceBeside_error hmade.2 h
    rw [replace_apply, makeDirectories_of_leads (halike.grows.leadsToDirectory hleads)]
    obtain ⟨a, d₂, d₂', hok, -, -⟩ | ⟨g, d₂, d₂', -, hagain, -⟩ :=
      (replaceBeside_congr halike p bytes).cases
    · rw [hok] at h
      cases h
    · exact ⟨g, d₂', hagain⟩

theorem place_eq_concat (hne : p.parts ≠ []) (hup : p.name ≠ "..") :
    ∃ above, d.place p = above ++ [p.name] := by
  obtain ⟨names, name, hparts⟩ := (List.eq_nil_or_concat p.parts).resolve_left hne
  rw [List.concat_eq_append] at hparts
  have hname : p.name = name := by
    rw [Path.name, hparts, List.getLastD_concat]
  refine ⟨climb (d.start p) names, ?_⟩
  rw [place, hparts, climb_append, climb, if_neg (hname ▸ hup), climb, hname]

theorem exists_find?_put {q r : Place} {e x : Entry} (h : d.find? r = some x) :
    ∃ y, (d.put q e).find? r = some y := by
  obtain rfl | hr := eq_or_ne r []
  · exact ⟨_, find?_nil _⟩
  · rw [find?_put hr]
    split_ifs
    · exact ⟨e, rfl⟩
    · exact ⟨x, h⟩

theorem write_of_none {q : Path} {old : Place} (hlocate : d.locate q = .ok old) (hold : d.find? old = none) :
    write q bytes d = .ok () (d.put old (.file bytes d.now)) := by
  rw [write_apply, hlocate]
  dsimp only
  rw [hold]

theorem rename_of_file {source target : Path} {old new : Place} {e : Entry} {b : List UInt8} {t : Int}
    (hbusy : target.parts ≠ [] ∧ target.name ≠ "..") (hold : d.locate source = .ok old)
    (hnew : d.locate target = .ok new) (hfile : d.find? new = some (.file b t))
    (hfind : d.find? old = some e) : rename source target d = .ok () ((d.erase old).put new e) := by
  rw [rename_apply, if_neg (by simpa using hbusy), hold, hnew]
  dsimp only
  rw [hfile, hfind]

/-- The temporary name is free again after a replacement. -/
theorem freshName_put {old new : Place} (hold : old ≠ new) (hnone : d.find? old = none)
    (hlocate : d.locate (p.parent.child (freshName d p.parent p.name)) = .ok old)
    (hdir : ∀ q, (d.put new (.file bytes d.now)).HasDirectory q ↔ d.HasDirectory q) :
    freshName (d.put new (.file bytes d.now)) p.parent p.name = freshName d p.parent p.name := by
  obtain ⟨k, hk, -, htaken⟩ := exists_freshName d p.parent p.name
  have hmono {q : Path} {r : Place} (h : d.locate q = .ok r) :
      (d.put new (.file bytes d.now)).locate q = .ok r :=
    locate_mono (current_put d new _) (fun q hq => (hdir q).mpr hq) h
  rw [hk] at hlocate ⊢
  refine freshName_eq ?_ fun j hj => ?_
  · rintro ⟨e, he⟩
    obtain ⟨r, hr, hfind⟩ := stat_eq_ok.mp he
    obtain rfl : old = r := Except.ok.inj ((hmono hlocate).symm.trans hr)
    have hne : old ≠ [] := by
      rintro rfl
      rw [find?_nil] at hnone
      cases hnone
    rw [find?_put hne, if_neg hold, hnone] at hfind
    cases hfind
  · obtain ⟨e, he⟩ := htaken j hj
    obtain ⟨r, hr, hfind⟩ := stat_eq_ok.mp he
    obtain ⟨e', he'⟩ := exists_find?_put hfind
    exact ⟨e', stat_eq_ok.mpr ⟨r, hmono hr, he'⟩⟩

theorem temporary_ne {old new : Place} (hbusy : p.parts ≠ [] ∧ p.name ≠ "..")
    (hold : d.locate (p.parent.child (freshName d p.parent p.name)) = .ok old)
    (hnew : d.locate p = .ok new) : old ≠ new := by
  obtain ⟨k, hk, -, -⟩ := exists_freshName d p.parent p.name
  obtain ⟨base, stem, hne, hplace⟩ := exists_place_temporaryName d p.parent p.name
  obtain ⟨above, habove⟩ := place_eq_concat (d := d) hbusy.1 hbusy.2
  rw [locate_place hold, locate_place hnew, hk, hplace, habove]
  intro h
  exact hne k (List.append_inj_right' h rfl |> List.singleton_inj.mp)

theorem replaceBeside_again (hd : d.IsTree) (h : replaceBeside p bytes d = .ok () d') :
    ∃ d'', replaceBeside p bytes d' = .ok () d'' := by
  obtain ⟨hbusy, new, hnew, hfile, halike⟩ := replaceBeside_ok hd h
  have hput := isTree_put_file hd (hd.locate_parent hnew) hfile bytes d.now
  have hmono {q : Path} {r : Place} (h : d.locate q = .ok r) :
      (d.put new (.file bytes d.now)).locate q = .ok r :=
    locate_mono (current_put d new _) (fun q hq => (hput.1 q).mpr hq) h
  suffices hok : ∃ d'', replaceBeside p bytes (d.put new (.file bytes d.now)) = .ok () d'' by
    obtain ⟨d'', hok⟩ := hok
    obtain ⟨a, d₂, d₂', -, hagain, -⟩ | ⟨g, d₂, d₂', herror, -, -⟩ :=
      (replaceBeside_congr halike p bytes).cases
    · exact ⟨d₂', hagain⟩
    · rw [hok] at herror
      cases herror
  rw [replaceBeside_apply] at h
  cases hwrite : write (p.parent.child (freshName d p.parent p.name)) bytes d with
  | error g d₁ =>
    rw [hwrite] at h
    cases h
  | ok a d₁ =>
    obtain ⟨old, hlocate, hold, rfl⟩ := write_temporary hwrite
    have hne := temporary_ne hbusy hlocate hnew
    have hold' : (d.put new (.file bytes d.now)).find? old = none := by
      rw [find?_put (by rintro rfl; simp at hold), if_neg hne, hold]
    have hnew' : new ≠ [] := by
      rintro rfl
      exact hfile (hasDirectory_nil d)
    have hdir := (hasDirectory_put_temporary hput.2 (hmono hlocate) hold' bytes d.now).1
    have hmono' {q : Path} {r : Place} (h : d.locate q = .ok r) :
        ((d.put new (.file bytes d.now)).put old (.file bytes d.now)).locate q = .ok r :=
      locate_mono (current_put _ old _) (fun q hq => (hdir q).mpr hq) (hmono h)
    rw [replaceBeside_apply, freshName_put hne hold hlocate hput.1, write_of_none (hmono hlocate) hold']
    dsimp only
    rw [now_put, rename_of_file hbusy (hmono' hlocate) (hmono' hnew)
      (by rw [find?_put hnew', if_neg hne.symm, find?_put hnew', if_pos rfl])
      (find?_put_self (by simp [hold']) _)]
    exact ⟨_, rfl⟩

theorem replace_again (hd : d.IsTree) (h : replace p bytes d = .ok () d') :
    ∃ d'', replace p bytes d' = .ok () d'' := by
  rw [replace_apply] at h
  cases hmake : makeDirectories p.parent d with
  | error f d₁ =>
    rw [hmake] at h
    cases h
  | ok a d₁ =>
    obtain ⟨hmade, r, hr, hdir⟩ := makeDirectories_ok hd hmake
    rw [hmake] at h
    obtain ⟨-, new, hnew, hfile, halike⟩ := replaceBeside_ok hmade.2 h
    obtain ⟨d'', hagain⟩ := replaceBeside_again hmade.2 h
    -- the directories that were made are still there
    have hput := (isTree_put_file hmade.2 (hmade.2.locate_parent hnew) hfile bytes d₁.now).1
    have hkeep (q : Place) (hq : d₁.HasDirectory q) : d'.HasDirectory q :=
      (halike.hasDirectory q).mpr ((hput q).mpr hq)
    have hleads : d'.LeadsToDirectory p.parent :=
      ⟨r, locate_mono (halike.current.trans (current_put d₁ new _)) hkeep hr, hkeep r hdir⟩
    exact ⟨d'', by rw [replace_apply, makeDirectories_of_leads hleads]; exact hagain⟩

end Gabarit.Disk
