import Gabarit.Proofs.Disk.Write

/-!
# Replacing files

* `AlikeResult`, `replaceBeside_congr`: on disks that are alike the same is done;
* **`replace_ok`**: after a file was replaced, the disk has it and the directories above it;
* `Replaced`, `replace_replaced`: nothing else is changed; `replace_gains`: if the file was missing;
* **`replace_error`**: a failure adds only directories.
-/

namespace Gabarit.Disk

variable {d d' : Disk} {p : Path} {bytes : List UInt8} {f : FileFault}

/-! ## Disks that are alike -/

/-- The results are the same, and the disks are alike. -/
def AlikeResult {α : Type} : EStateM.Result FileFault Disk α → EStateM.Result FileFault Disk α → Prop
  | .ok a d, .ok a' d' => a = a' ∧ Alike d d'
  | .error f d, .error f' d' => f = f' ∧ Alike d d'
  | _, _ => False

theorem AlikeResult.cases {α : Type} {r r' : EStateM.Result FileFault Disk α} (h : AlikeResult r r') :
    (∃ a d d', r = .ok a d ∧ r' = .ok a d' ∧ Alike d d') ∨
      ∃ f d d', r = .error f d ∧ r' = .error f d' ∧ Alike d d' := by
  cases r with
  | ok a d =>
    cases r' with
    | ok a' d' =>
      obtain ⟨rfl, h⟩ := h
      exact .inl ⟨a, d, d', rfl, rfl, h⟩
    | error f' d' => exact h.elim
  | error f d =>
    cases r' with
    | ok a' d' => exact h.elim
    | error f' d' =>
      obtain ⟨rfl, h⟩ := h
      exact .inr ⟨f, d, d', rfl, rfl, h⟩

theorem Alike.put (h : Alike d d') (q : Place) (e : Entry) : Alike (d.put q e) (d'.put q e) := by
  refine ⟨fun p => ?_, h.current, h.now⟩
  obtain rfl | hp := eq_or_ne p []
  · rw [find?_nil, find?_nil]
  · rw [find?_put hp, find?_put hp, h.find?]

theorem Alike.erase (h : Alike d d') (q : Place) : Alike (d.erase q) (d'.erase q) := by
  refine ⟨fun p => ?_, h.current, h.now⟩
  obtain rfl | hp := eq_or_ne p []
  · rw [find?_nil, find?_nil]
  · rw [find?_erase hp, find?_erase hp, h.find?]

theorem Alike.freshName (h : Alike d d') (directory : Path) (name : String) :
    d'.freshName directory name = d.freshName directory name := by
  obtain ⟨k, hk, hfree, htaken⟩ := exists_freshName d directory name
  have hsame (j : ℕ) : Taken d' directory name j ↔ Taken d directory name j := by
    rw [Taken, Taken, h.stat]
  rw [hk]
  exact freshName_eq (mt (hsame k).mp hfree) fun j hj => (hsame j).mpr (htaken j hj)

theorem write_congr (h : Alike d d') (p : Path) (bytes : List UInt8) :
    AlikeResult (write p bytes d) (write p bytes d') := by
  rw [write_apply, write_apply, h.locate]
  cases d.locate p with
  | error f => exact ⟨rfl, h⟩
  | ok place =>
    dsimp only
    rw [h.find?, h.now]
    obtain _ | ⟨b, t⟩ | ⟨t⟩ := d.find? place
    · exact ⟨rfl, h.put _ _⟩
    · exact ⟨rfl, h.put _ _⟩
    · exact ⟨rfl, h⟩

theorem remove_congr (h : Alike d d') (p : Path) : AlikeResult (remove p d) (remove p d') := by
  rw [remove_apply, remove_apply, h.locate]
  cases d.locate p with
  | error f => exact ⟨rfl, h⟩
  | ok place =>
    dsimp only
    rw [h.find?]
    split_ifs
    · exact ⟨rfl, h⟩
    · exact ⟨rfl, h.erase _⟩

theorem rename_congr (h : Alike d d') (source target : Path) :
    AlikeResult (rename source target d) (rename source target d') := by
  rw [rename_apply, rename_apply, h.locate, h.locate]
  split_ifs
  · exact ⟨rfl, h⟩
  · cases d.locate source with
    | error f => exact ⟨rfl, h⟩
    | ok old =>
      cases d.locate target with
      | error f => exact ⟨rfl, h⟩
      | ok new =>
        dsimp only
        rw [h.find?, h.find?]
        obtain _ | ⟨b, t⟩ | ⟨t⟩ := d.find? new
        case some.directory => exact ⟨rfl, h⟩
        all_goals
          dsimp only
          cases d.find? old with
          | none => exact ⟨rfl, h⟩
          | some e => exact ⟨rfl, (h.erase _).put _ _⟩

/-! ## Steps of a replacement -/

/-- Writing a file beside its place and giving it this place, where the directories are there. -/
def replaceBeside (p : Path) (bytes : List UInt8) : Change Unit := do
  let temporary := p.parent.child (freshName (← get) p.parent p.name)
  write temporary bytes
  try rename temporary p
  catch f =>
    remove temporary
    throw f

theorem replace_apply (d : Disk) (p : Path) (bytes : List UInt8) : replace p bytes d =
    match makeDirectories p.parent d with
      | .error f d' => .error f d'
      | .ok () d' => replaceBeside p bytes d' := by
  rw [replace, EStateM.bind_apply]
  cases makeDirectories p.parent d <;> rfl

theorem replaceBeside_apply (d : Disk) (p : Path) (bytes : List UInt8) : replaceBeside p bytes d =
    match write (p.parent.child (freshName d p.parent p.name)) bytes d with
      | .error f d' => .error f d'
      | .ok () d' => match rename (p.parent.child (freshName d p.parent p.name)) p d' with
        | .ok () d' => .ok () d'
        | .error f d' => match remove (p.parent.child (freshName d p.parent p.name)) d' with
          | .ok () d' => .error f d'
          | .error f d' => .error f d' := by
  rw [replaceBeside, EStateM.bind_apply, EStateM.get_apply]
  dsimp only
  rw [EStateM.bind_apply]
  cases write (p.parent.child (freshName d p.parent p.name)) bytes d with
  | error f d' => rfl
  | ok a d' =>
    dsimp only
    rw [EStateM.tryCatch_apply]
    cases rename (p.parent.child (freshName d p.parent p.name)) p d' with
    | ok a d' => rfl
    | error f d' =>
      dsimp only
      rw [EStateM.bind_apply]
      cases remove (p.parent.child (freshName d p.parent p.name)) d' <;> rfl

theorem replaceBeside_congr (h : Alike d d') (p : Path) (bytes : List UInt8) :
    AlikeResult (replaceBeside p bytes d) (replaceBeside p bytes d') := by
  rw [replaceBeside_apply, replaceBeside_apply, h.freshName]
  generalize p.parent.child (freshName d p.parent p.name) = temporary
  obtain ⟨a, d₁, d₁', hwrite, hwrite', h₁⟩ | ⟨f, d₁, d₁', hwrite, hwrite', h₁⟩ :=
    (write_congr h temporary bytes).cases
  · rw [hwrite, hwrite']
    dsimp only
    obtain ⟨a, d₂, d₂', hrename, hrename', h₂⟩ | ⟨f, d₂, d₂', hrename, hrename', h₂⟩ :=
      (rename_congr h₁ temporary p).cases
    · rw [hrename, hrename']
      exact ⟨rfl, h₂⟩
    · rw [hrename, hrename']
      dsimp only
      obtain ⟨a, d₃, d₃', hremove, hremove', h₃⟩ | ⟨g, d₃, d₃', hremove, hremove', h₃⟩ :=
        (remove_congr h₂ temporary).cases
      · rw [hremove, hremove']
        exact ⟨rfl, h₃⟩
      · rw [hremove, hremove']
        exact ⟨rfl, h₃⟩
  · rw [hwrite, hwrite']
    exact ⟨rfl, h₁⟩

/-! ## What a replacement leaves -/

theorem alike_erase_put {old : Place} (hd : d.IsTree) (hold : d.find? old = none) (e : Entry) :
    Alike d ((d.put old e).erase old) := by
  refine ⟨fun q => ?_, rfl, rfl⟩
  obtain rfl | hq := eq_or_ne q []
  · rw [find?_nil, find?_nil]
  · rw [find?_erase hq, find?_put hq]
    split_ifs with hprefix heq
    · by_cases h : q = old
      · rw [h, hold]
      · refine (hd.find?_below ?_ hprefix h).symm
        rintro ⟨t, ht⟩
        rw [hold] at ht
        cases ht
    · exact absurd (heq ▸ List.prefix_rfl) hprefix
    · rfl

/-- The temporary file of a replacement is written where nothing is. -/
theorem write_temporary {d₁ : Disk} (h : write (p.parent.child (freshName d p.parent p.name)) bytes d = .ok () d₁) :
    ∃ old, d.locate (p.parent.child (freshName d p.parent p.name)) = .ok old ∧ d.find? old = none ∧
      d₁ = d.put old (.file bytes d.now) := by
  obtain ⟨k, hk, hfree, -⟩ := exists_freshName d p.parent p.name
  rw [write_apply] at h
  cases hlocate : d.locate (p.parent.child (freshName d p.parent p.name)) with
  | error f =>
    rw [hlocate] at h
    cases h
  | ok old =>
    have hnone : d.find? old = none := by
      by_contra hne
      obtain ⟨e, he⟩ := Option.ne_none_iff_exists'.mp hne
      exact hfree ⟨e, stat_eq_ok.mpr ⟨old, hk ▸ hlocate, he⟩⟩
    rw [hlocate] at h
    dsimp only at h
    rw [hnone] at h
    cases h
    exact ⟨old, rfl, hnone, rfl⟩

theorem write_error {d₁ : Disk} (h : write p bytes d = .error f d₁) : d₁ = d := by
  rw [write_apply] at h
  split at h
  · cases h
    rfl
  · split at h <;> cases h
    rfl

theorem rename_error {source target : Path} {d₁ : Disk} (h : rename source target d = .error f d₁) :
    d₁ = d := by
  rw [rename_apply] at h
  split_ifs at h
  · cases h
    rfl
  · split at h
    · cases h
      rfl
    · split at h
      · cases h
        rfl
      · split at h
        · cases h
          rfl
        · split at h <;> cases h
          rfl

theorem rename_ok {source target : Path} {d₁ : Disk} (h : rename source target d = .ok () d₁) :
    (target.parts ≠ [] ∧ target.name ≠ "..") ∧ ∃ old new e, d.locate source = .ok old ∧
      d.locate target = .ok new ∧ ¬d.HasDirectory new ∧ d.find? old = some e ∧
        d₁ = (d.erase old).put new e := by
  rw [rename_apply] at h
  split_ifs at h with hbusy
  rw [Bool.or_eq_true, not_or, List.isEmpty_iff, beq_iff_eq] at hbusy
  cases hold : d.locate source with
  | error f =>
    rw [hold] at h
    cases h
  | ok old =>
    cases hnew : d.locate target with
    | error f =>
      rw [hold, hnew] at h
      cases h
    | ok new =>
      rw [hold, hnew] at h
      dsimp only at h
      have hfile : ¬d.HasDirectory new := by
        rintro ⟨t, ht⟩
        rw [ht] at h
        cases h
      cases hfind : d.find? old with
      | none =>
        rw [hfind] at h
        split at h <;> cases h
      | some e =>
        rw [hfind] at h
        refine ⟨hbusy, old, new, e, rfl, rfl, hfile, hfind, ?_⟩
        split at h <;> cases h
        rfl

/-- A file beside its place does not change which directories there are. -/
theorem hasDirectory_put_temporary {old : Place} (hd : d.IsTree) {q : Path} (hlocate : d.locate q = .ok old)
    (hold : d.find? old = none) (bytes : List UInt8) (t : Int) :
    (∀ r, (d.put old (.file bytes t)).HasDirectory r ↔ d.HasDirectory r) ∧
      (d.put old (.file bytes t)).IsTree := by
  refine isTree_put_file hd (hd.locate_parent hlocate) ?_ bytes t
  rintro ⟨t, ht⟩
  rw [hold] at ht
  cases ht

theorem find?_put_self {q : Place} (hq : d.find? q ≠ some (.directory directoryTime)) (e : Entry) :
    (d.put q e).find? q = some e := by
  have hne : q ≠ [] := by
    rintro rfl
    exact hq (find?_nil d)
  rw [find?_put hne, if_pos rfl]

theorem replaceBeside_error (hd : d.IsTree) (h : replaceBeside p bytes d = .error f d') : Alike d d' := by
  rw [replaceBeside_apply] at h
  cases hwrite : write (p.parent.child (freshName d p.parent p.name)) bytes d with
  | error g d₁ =>
    rw [hwrite] at h
    cases h
    rw [write_error hwrite]
    exact .refl d
  | ok a d₁ =>
    obtain ⟨old, hlocate, hold, rfl⟩ := write_temporary hwrite
    rw [hwrite] at h
    dsimp only at h
    cases hrename : rename (p.parent.child (freshName d p.parent p.name)) p
        (d.put old (.file bytes d.now)) with
    | ok a d₂ =>
      rw [hrename] at h
      cases h
    | error g d₂ =>
      obtain rfl := rename_error hrename
      -- the file is there, so it can be removed
      have hdir := (hasDirectory_put_temporary hd hlocate hold bytes d.now).1
      have hlocate' : (d.put old (.file bytes d.now)).locate _ = .ok old :=
        locate_mono (current_put d old _) (fun r hr => (hdir r).mpr hr) hlocate
      have hfind : (d.put old (.file bytes d.now)).find? old = some (.file bytes d.now) :=
        find?_put_self (by simp [hold]) _
      rw [hrename] at h
      dsimp only at h
      rw [remove_apply, hlocate'] at h
      simp only [hfind, Option.isNone_some, Bool.false_eq_true, if_false] at h
      cases h
      exact alike_erase_put hd hold _

theorem replaceBeside_ok (hd : d.IsTree) (h : replaceBeside p bytes d = .ok () d') :
    (p.parts ≠ [] ∧ p.name ≠ "..") ∧ ∃ new, d.locate p = .ok new ∧ ¬d.HasDirectory new ∧
      Alike (d.put new (.file bytes d.now)) d' := by
  rw [replaceBeside_apply] at h
  cases hwrite : write (p.parent.child (freshName d p.parent p.name)) bytes d with
  | error g d₁ =>
    rw [hwrite] at h
    cases h
  | ok a d₁ =>
    obtain ⟨old, hlocate, hold, rfl⟩ := write_temporary hwrite
    rw [hwrite] at h
    dsimp only at h
    cases hrename : rename (p.parent.child (freshName d p.parent p.name)) p
        (d.put old (.file bytes d.now)) with
    | error g d₂ =>
      rw [hrename] at h
      split at h <;> rename_i heq <;> cases heq
      split at h <;> cases h
    | ok a d₂ =>
      rw [hrename] at h
      cases h
      obtain ⟨hbusy, old', new, e, hold', hnew, hfile, hfind, rfl⟩ := rename_ok hrename
      have hdir := (hasDirectory_put_temporary hd hlocate hold bytes d.now).1
      have hlocate' : (d.put old (.file bytes d.now)).locate _ = .ok old :=
        locate_mono (current_put d old _) (fun r hr => (hdir r).mpr hr) hlocate
      obtain rfl : old = old' := Except.ok.inj (hlocate'.symm.trans hold')
      rw [find?_put_self (by simp [hold])] at hfind
      cases hfind
      refine ⟨hbusy, new, ?_, mt (hdir new).mpr hfile, (alike_erase_put hd hold _).put new _⟩
      exact locate_mono (current_put d old _).symm (fun r hr => (hdir r).mp hr) hnew

/-! ## Replacing -/

theorem makeDirectories_ok (hd : d.IsTree) (h : makeDirectories p d = .ok () d') :
    (Grows d d' ∧ d'.IsTree) ∧ d'.LeadsToDirectory p := by
  refine ⟨?_, ?_⟩
  · have hmade := makeFrom_grows p.anchor p.parts.reverse hd
    rw [makeDirectories] at h
    rwa [h] at hmade
  · have hleads := makeFrom_leads hd h
    rwa [List.reverse_reverse] at hleads

theorem makeDirectories_error (hd : d.IsTree) (h : makeDirectories p d = .error f d') :
    Grows d d' ∧ d'.IsTree := by
  have hmade := makeFrom_grows p.anchor p.parts.reverse hd
  rw [makeDirectories] at h
  rwa [h] at hmade

theorem makeDirectories_of_leads (h : d.LeadsToDirectory p) : makeDirectories p d = .ok () d := by
  refine makeFrom_of_leads ?_
  rwa [List.reverse_reverse]

/-- **After a file was replaced**, the disk has it and the directories above it; nothing else is
changed. -/
theorem replace_ok (hd : d.IsTree) (h : replace p bytes d = .ok () d') :
    ∃ d₁, (Grows d d₁ ∧ d₁.IsTree) ∧ ∃ new, d₁.locate p = .ok new ∧ ¬d₁.HasDirectory new ∧
      Alike (d₁.put new (.file bytes d.now)) d' := by
  rw [replace_apply] at h
  cases hmake : makeDirectories p.parent d with
  | error f d₁ =>
    rw [hmake] at h
    cases h
  | ok a d₁ =>
    obtain ⟨hmade, -⟩ := makeDirectories_ok hd hmake
    rw [hmake] at h
    obtain ⟨-, new, hnew, hfile, halike⟩ := replaceBeside_ok hmade.2 h
    exact ⟨d₁, hmade, new, hnew, hfile, hmade.1.now ▸ halike⟩

/-- The file at the path is the given one, and all else is as it was, but for directories that were
made. -/
structure Replaced (p : Path) (bytes : List UInt8) (d d' : Disk) : Prop where
  isTree : d'.IsTree
  current : d'.current = d.current
  now : d'.now = d.now
  stat : d'.stat p = .ok (.file bytes d.now)
  noDirectory : ¬d.HasDirectory (d.place p)
  kept : ∀ {q e}, q ≠ d.place p → d.find? q = some e → d'.find? q = some e
  added : ∀ {q e}, q ≠ d.place p → d'.find? q = some e →
    d.find? q = some e ∨ d.find? q = none ∧ e.isFile = false

theorem replace_replaced (hd : d.IsTree) (h : replace p bytes d = .ok () d') : Replaced p bytes d d' := by
  obtain ⟨d₁, ⟨hgrows, htree⟩, new, hnew, hfile, halike⟩ := replace_ok hd h
  obtain rfl : new = d.place p := (locate_place hnew).trans (place_congr hgrows.current p)
  have hput := isTree_put_file htree (htree.locate_parent hnew) hfile bytes d.now
  have hne : d.place p ≠ [] := fun h => hfile (h ▸ hasDirectory_nil d₁)
  have hfind (q : Place) : d'.find? q = if q = d.place p then some (.file bytes d.now) else d₁.find? q := by
    rw [halike.find?]
    obtain rfl | hq := eq_or_ne q []
    · rw [find?_nil, if_neg hne.symm, find?_nil]
    · exact find?_put hq
  refine ⟨halike.isTree hput.2, halike.current.trans hgrows.current, halike.now.trans hgrows.now, ?_,
    fun hdir => hfile (hgrows.hasDirectory _ hdir), fun hq he => ?_, fun hq he => ?_⟩
  · refine stat_eq_ok.mpr ⟨d.place p, ?_, by rw [hfind, if_pos rfl]⟩
    rw [halike.locate]
    exact locate_mono (current_put d₁ _ _) (fun q hq => (hput.1 q).mpr hq) hnew
  · rw [hfind, if_neg hq, hgrows.kept he]
  · rw [hfind, if_neg hq] at he
    exact hgrows.added he

namespace Replaced

theorem hasDirectory (h : Replaced p bytes d d') (q : Place) (hq : d.HasDirectory q) : d'.HasDirectory q := by
  obtain ⟨t, ht⟩ := hq
  exact ⟨t, h.kept (fun heq => h.noDirectory (heq ▸ ⟨t, ht⟩)) ht⟩

theorem find? (h : Replaced p bytes d d') : d'.find? (d.place p) = some (.file bytes d.now) := by
  obtain ⟨r, hr, hfind⟩ := stat_eq_ok.mp h.stat
  rw [locate_place hr, place_congr h.current] at hfind
  exact hfind

/-- A file is as it was, or is the new one. -/
theorem stat_file (h : Replaced p bytes d d') {q : Path} {content : List UInt8} {t : ℤ}
    (hq : d.stat q = .ok (.file content t)) :
    d'.stat q = .ok (if d.place q = d.place p then .file bytes d.now else .file content t) := by
  obtain ⟨r, hr, hfind⟩ := stat_eq_ok.mp hq
  obtain rfl := locate_place hr
  refine stat_eq_ok.mpr ⟨d.place q, locate_mono h.current h.hasDirectory hr, ?_⟩
  split_ifs with heq
  · rw [heq, h.find?]
  · exact h.kept heq hfind

end Replaced

/-- A file that was missing is all that a replacement adds beside directories. -/
theorem replace_gains (hd : d.IsTree) (hp : d.find? (d.place p) = none)
    (h : replace p bytes d = .ok () d') :
    (Gains (d.place p) d d' ∧ d'.IsTree) ∧ d'.stat p = .ok (.file bytes d.now) := by
  have hreplaced := replace_replaced hd h
  refine ⟨⟨⟨fun {q e} hq => ?_, fun {q e} hq => ?_, hreplaced.current⟩, hreplaced.isTree⟩, hreplaced.stat⟩
  · refine hreplaced.kept ?_ hq
    rintro rfl
    rw [hp] at hq
    cases hq
  · by_cases heq : q = d.place p
    · exact .inr ⟨heq ▸ hp, .inr heq⟩
    · exact (hreplaced.added heq hq).imp_right fun ⟨hnone, he⟩ => ⟨hnone, .inl he⟩

/-- **A failure to replace a file** adds only directories. -/
theorem replace_error (hd : d.IsTree) (h : replace p bytes d = .error f d') :
    Grows d d' ∧ d'.IsTree := by
  rw [replace_apply] at h
  cases hmake : makeDirectories p.parent d with
  | error f d₁ =>
    rw [hmake] at h
    cases h
    exact makeDirectories_error hd hmake
  | ok a d₁ =>
    obtain ⟨hmade, -⟩ := makeDirectories_ok hd hmake
    rw [hmake] at h
    have halike := replaceBeside_error hmade.2 h
    exact ⟨hmade.1.trans halike.grows, halike.isTree hmade.2⟩

end Gabarit.Disk
