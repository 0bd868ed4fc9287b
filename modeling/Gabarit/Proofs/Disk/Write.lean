import Gabarit.Proofs.Disk.Fresh

/-!
# Writing files

* `ensureDirectory_apply`, `write_apply`, `rename_apply`, `remove_apply`: the steps by what stands on the
  disk;
* `makeFrom_grows`, `makeFrom_leads`: making directories adds only these;
* `makeFrom_of_leads`: what is there is not made again;
* `makeFrom_again`: what could not be made cannot be made later.
-/

namespace Gabarit.Disk

/-! ## Steps -/

section Steps

variable (d : Disk) (p : Path)

theorem ask_apply {α : Type} (question : Disk → Except FileFault α) :
    ask question d = match question d with
      | .ok a => .ok a d
      | .error f => .error f d := by
  rw [ask, EStateM.bind_apply, EStateM.get_apply]
  dsimp only
  cases question d <;> rfl

theorem makeDirectory_apply : makeDirectory p d = match d.locate p with
    | .error f => .error f d
    | .ok place =>
      if (d.find? place).isSome then .error .exists d
      else .ok () (d.put place (.directory directoryTime)) := by
  rw [makeDirectory, EStateM.bind_apply, ask_apply]
  cases d.locate p with
  | error f => rfl
  | ok place =>
    dsimp only
    rw [EStateM.bind_apply, EStateM.get_apply]
    dsimp only
    split_ifs <;> rfl

theorem ensureDirectory_apply : ensureDirectory p d = match d.locate p with
    | .error f => .error f d
    | .ok place => match d.find? place with
      | some (.directory _) => .ok () d
      | some (.file ..) => .error .exists d
      | none => .ok () (d.put place (.directory directoryTime)) := by
  rw [ensureDirectory, EStateM.tryCatch_apply, makeDirectory_apply]
  cases hlocate : d.locate p with
  | error f =>
    dsimp only
    split_ifs with hf
    · rfl
    · rw [EStateM.bind_apply, ask_apply, isDirectory, holds, stat, hlocate]
      simp only [bind, Except.bind]
      cases f <;> rfl
  | ok place =>
    dsimp only
    cases hfind : d.find? place with
    | none => rfl
    | some e =>
      simp only [Option.isSome_some, if_true, reduceCtorEq, or_self, if_false]
      rw [EStateM.bind_apply, ask_apply, isDirectory, holds, stat, hlocate]
      simp only [bind, Except.bind, hfind]
      cases e <;> rfl

theorem write_apply (bytes : List UInt8) : write p bytes d = match d.locate p with
    | .error f => .error f d
    | .ok place => match d.find? place with
      | some (.directory _) => .error .isDirectory d
      | _ => .ok () (d.put place (.file bytes d.now)) := by
  rw [write, EStateM.bind_apply, ask_apply]
  cases d.locate p with
  | error f => rfl
  | ok place =>
    dsimp only
    rw [EStateM.bind_apply, EStateM.get_apply]
    dsimp only
    cases d.find? place with
    | none => rfl
    | some e => cases e <;> rfl

theorem remove_apply : remove p d = match d.locate p with
    | .error f => .error f d
    | .ok place => if (d.find? place).isNone then .error .notFound d else .ok () (d.erase place) := by
  rw [remove, EStateM.bind_apply, ask_apply]
  cases d.locate p with
  | error f => rfl
  | ok place =>
    dsimp only
    rw [EStateM.bind_apply, EStateM.get_apply]
    dsimp only
    split_ifs <;> rfl

theorem rename_apply (source target : Path) : rename source target d =
    if target.parts.isEmpty || target.name == ".." then .error .busy d
    else match d.locate source with
      | .error f => .error f d
      | .ok old => match d.locate target with
        | .error f => .error f d
        | .ok new => match d.find? new with
          | some (.directory _) => .error .isDirectory d
          | _ => match d.find? old with
            | some e => .ok () ((d.erase old).put new e)
            | none => .error .notFound d := by
  rw [rename]
  dsimp only
  split_ifs
  · rfl
  · rw [EStateM.bind_apply, ask_apply]
    cases d.locate source with
    | error f => rfl
    | ok old =>
      dsimp only
      rw [EStateM.bind_apply, ask_apply]
      cases d.locate target with
      | error f => rfl
      | ok new =>
        dsimp only
        rw [EStateM.bind_apply, EStateM.get_apply]
        dsimp only
        obtain _ | ⟨bytes, t⟩ | ⟨t⟩ := d.find? new
        case some.directory => rfl
        all_goals
          dsimp only
          rw [EStateM.bind_apply, EStateM.get_apply]
          dsimp only
          cases d.find? old <;> rfl

end Steps

/-! ## Directories -/

variable {d d' : Disk} {p : Path} {f : FileFault}

/-- The path leads to a directory. -/
def LeadsToDirectory (d : Disk) (p : Path) : Prop := ∃ r, d.locate p = .ok r ∧ d.HasDirectory r

theorem Grows.leadsToDirectory (h : Grows d d') (hp : d.LeadsToDirectory p) : d'.LeadsToDirectory p := by
  obtain ⟨r, hr, hdir⟩ := hp
  exact ⟨r, h.locate hr, h.hasDirectory r hdir⟩

theorem ensureDirectory_of_leads (h : d.LeadsToDirectory p) : ensureDirectory p d = .ok () d := by
  obtain ⟨r, hr, t, ht⟩ := h
  rw [ensureDirectory_apply, hr]
  simp only [ht]

theorem ensureDirectory_error (h : ensureDirectory p d = .error f d') : d' = d := by
  rw [ensureDirectory_apply] at h
  split at h
  · cases h
    rfl
  · split at h <;> cases h
    rfl

theorem exists_locate_of_ensureDirectory (h : ensureDirectory p d = .ok () d') :
    ∃ r, d.locate p = .ok r := by
  rw [ensureDirectory_apply] at h
  cases hr : d.locate p with
  | error f =>
    rw [hr] at h
    cases h
  | ok r => exact ⟨r, rfl⟩

theorem ensureDirectory_ok (hd : d.IsTree) (h : ensureDirectory p d = .ok () d') :
    (Grows d d' ∧ d'.IsTree) ∧ d'.LeadsToDirectory p := by
  rw [ensureDirectory_apply] at h
  split at h
  · cases h
  · rename_i r hr
    split at h
    · rename_i t ht
      cases h
      exact ⟨⟨.refl d, hd⟩, r, hr, t, ht⟩
    · cases h
    · rename_i hnone
      cases h
      obtain ⟨hgrows, htree⟩ := grows_put_directory hd (hd.locate_parent hr) hnone directoryTime
      refine ⟨⟨hgrows, htree⟩, r, hgrows.locate hr, directoryTime, ?_⟩
      have hne : r ≠ [] := by
        rintro rfl
        rw [find?_nil] at hnone
        cases hnone
      rw [find?_put hne, if_pos rfl]

theorem makeFrom_cons_apply (d : Disk) (anchor : Anchor) (name : String) (above : List String) :
    makeFrom anchor (name :: above) d = match ensureDirectory ⟨anchor, (name :: above).reverse⟩ d with
      | .ok () d' => .ok () d'
      | .error f d' =>
        if f ≠ .notFound then .error f d'
        else match makeFrom anchor above d' with
          | .error f d' => .error f d'
          | .ok () d' => ensureDirectory ⟨anchor, (name :: above).reverse⟩ d' := by
  rw [makeFrom]
  dsimp only
  rw [EStateM.tryCatch_apply]
  cases ensureDirectory ⟨anchor, (name :: above).reverse⟩ d with
  | ok a d' => rfl
  | error f d' =>
    dsimp only
    split_ifs
    · rfl
    · rw [EStateM.bind_apply]
      cases makeFrom anchor above d' <;> rfl

/-- Making directories adds only directories, whether it fails or not. -/
theorem makeFrom_grows (anchor : Anchor) (names : List String) (hd : d.IsTree) :
    Grows d (stateAfter (makeFrom anchor names d)) ∧ (stateAfter (makeFrom anchor names d)).IsTree := by
  have hensure {p : Path} {d : Disk} (hd : d.IsTree) :
      Grows d (stateAfter (ensureDirectory p d)) ∧ (stateAfter (ensureDirectory p d)).IsTree := by
    cases h : ensureDirectory p d with
    | ok a d' => exact (ensureDirectory_ok hd h).1
    | error f d' =>
      rw [ensureDirectory_error h]
      exact ⟨.refl d, hd⟩
  induction names generalizing d with
  | nil => exact hensure hd
  | cons name above ih =>
    rw [makeFrom_cons_apply]
    cases h : ensureDirectory ⟨anchor, (name :: above).reverse⟩ d with
    | ok a d' => exact (ensureDirectory_ok hd h).1
    | error f d' =>
      obtain rfl := ensureDirectory_error h
      dsimp only
      split_ifs
      · exact ⟨.refl _, hd⟩
      · have habove := ih hd
        cases hmake : makeFrom anchor above d' with
        | error f d'' =>
          rw [hmake] at habove
          exact habove
        | ok a d'' =>
          rw [hmake] at habove
          exact ⟨habove.1.trans (hensure habove.2).1, (hensure habove.2).2⟩

theorem makeFrom_leads {anchor : Anchor} {names : List String} (hd : d.IsTree)
    (h : makeFrom anchor names d = .ok () d') : d'.LeadsToDirectory ⟨anchor, names.reverse⟩ := by
  cases names with
  | nil => exact (ensureDirectory_ok hd h).2
  | cons name above =>
    rw [makeFrom_cons_apply] at h
    split at h
    · rename_i hensure
      cases h
      exact (ensureDirectory_ok hd hensure).2
    · rename_i hensure
      obtain rfl := ensureDirectory_error hensure
      split_ifs at h
      split at h
      · cases h
      · rename_i hmake
        have htree := (makeFrom_grows anchor above hd).2
        rw [hmake] at htree
        exact (ensureDirectory_ok htree h).2

theorem makeFrom_of_leads {anchor : Anchor} {names : List String}
    (h : d.LeadsToDirectory ⟨anchor, names.reverse⟩) : makeFrom anchor names d = .ok () d := by
  cases names with
  | nil => exact ensureDirectory_of_leads h
  | cons name above => rw [makeFrom_cons_apply, ensureDirectory_of_leads h]

/-! ## Directories that cannot be made -/

/-- A path is no shorter than the one above it. -/
theorem utf8ByteSize_text_concat {anchor : Anchor} {names : List String} {name : String}
    (h : (Path.text ⟨anchor, names ++ [name]⟩).utf8ByteSize < pathLimit) :
    (Path.text ⟨anchor, names⟩).utf8ByteSize < pathLimit := by
  unfold Path.text at h ⊢
  dsimp only at h ⊢
  rw [if_neg (by simp), String.utf8ByteSize_append] at h
  split_ifs
  · decide
  · rw [String.utf8ByteSize_append]
    obtain rfl | hne := eq_or_ne names []
    · exact Nat.lt_of_le_of_lt (Nat.add_le_add_left (Nat.zero_le _) _) h
    · rw [String.intercalate_append_of_ne_nil hne (List.cons_ne_nil _ _), String.utf8ByteSize_append,
        String.utf8ByteSize_append] at h
      omega

theorem leadsToDirectory_above {anchor : Anchor} {names : List String} {name : String} {r : Place}
    (h : d.locate ⟨anchor, names ++ [name]⟩ = .ok r) : d.LeadsToDirectory ⟨anchor, names⟩ := by
  obtain ⟨hnul, hlen, hfollow⟩ := locate_eq_ok.mp h
  rw [follow_append] at hfollow
  obtain ⟨here, hhere, hfollow⟩ := bind_eq_ok.mp hfollow
  refine ⟨here, locate_eq_ok.mpr ⟨?_, utf8ByteSize_text_concat hlen, hhere⟩, (follow_cons.mp hfollow).1⟩
  simp only [hasNul, List.any_append, Bool.or_eq_false_iff] at hnul
  exact hnul.1

/-- **Directories that could not be made cannot be made again**, although some of them were made. -/
theorem makeFrom_again {anchor : Anchor} {names : List String} (hd : d.IsTree)
    (h : makeFrom anchor names d = .error f d') : ∃ f', makeFrom anchor names d' = .error f' d' := by
  induction names generalizing d d' f with
  | nil =>
    obtain rfl := ensureDirectory_error h
    exact ⟨f, h⟩
  | cons name above ih =>
    rw [makeFrom_cons_apply] at h
    split at h
    · cases h
    · rename_i f₁ d₁ hensure
      obtain rfl : d₁ = d := ensureDirectory_error hensure
      split_ifs at h with hf₁
      · cases h
        refine ⟨f, ?_⟩
        rw [makeFrom_cons_apply, hensure]
        exact if_pos hf₁
      · rw [makeFrom_cons_apply]
        split at h
        · rename_i hmake
          cases h
          -- the directories above are still not there
          obtain ⟨f₂, hagain⟩ := ih hd hmake
          cases hensure' : ensureDirectory ⟨anchor, (name :: above).reverse⟩ d' with
          | ok a d₃ =>
            obtain ⟨r, hr⟩ := exists_locate_of_ensureDirectory hensure'
            rw [List.reverse_cons] at hr
            rw [makeFrom_of_leads (leadsToDirectory_above hr)] at hagain
            cases hagain
          | error f₃ d₃ =>
            obtain rfl := ensureDirectory_error hensure'
            dsimp only
            split_ifs
            · exact ⟨f₃, rfl⟩
            · exact ⟨f₂, by rw [hagain]⟩
        · rename_i d₂ hmake
          obtain rfl := ensureDirectory_error h
          have hleads := makeFrom_leads hd hmake
          rw [h]
          dsimp only
          split_ifs
          · exact ⟨f, rfl⟩
          · exact ⟨f, by rw [makeFrom_of_leads hleads]; exact h⟩

end Gabarit.Disk
