import Gabarit.Proofs.Disk.Replace
import Mathlib.Logic.Function.Basic

/-!
# The files of a disk

What can be read from a disk is a map from places to files. The changes of a disk are seen as changes of
this map at one place, whatever directories are made for them.

* `file?`: the file at a place;
* `Sets`: the file at one place may be changed, and nothing else but directories;
* **`replace_sets`, `save_sets`, `discard_sets`**: writing and removing files.
-/

namespace Gabarit.Disk

variable {d d' d'' : Disk} {k : Place} {p : Path} {bytes : List UInt8} {t : ℤ}

/-- The file at a place, with its time. -/
def file? (d : Disk) (k : Place) : Option (List UInt8 × ℤ) :=
  match d.find? k with
  | some (.file bytes t) => some (bytes, t)
  | _ => none

theorem file?_eq_some : d.file? k = some (bytes, t) ↔ d.find? k = some (.file bytes t) := by
  unfold file?
  cases d.find? k with
  | none => simp
  | some e => cases e <;> simp

theorem file?_eq_none (h : ∀ x ∈ d.entries, x.2.isFile = false) (k : Place) : d.file? k = none := by
  rw [Option.eq_none_iff_forall_ne_some]
  rintro ⟨bytes, t⟩ hk
  rw [file?_eq_some] at hk
  by_cases hne : k = []
  · subst hne
    rw [find?_nil] at hk
    cases hk
  · rw [find?_of_ne _ hne] at hk
    obtain ⟨before, after, hentries, -⟩ := List.lookup_eq_some_iff.mp hk
    have hfile := h (k, .file bytes t) (hentries ▸ List.mem_append_right _ List.mem_cons_self)
    cases hfile

theorem file?_congr (h : d'.find? k = d.find? k) : d'.file? k = d.file? k := by
  unfold file?
  rw [h]

theorem file?_of_stat (h : d.stat p = .ok (.file bytes t)) : d.file? (d.place p) = some (bytes, t) := by
  obtain ⟨r, hr, hfind⟩ := stat_eq_ok.mp h
  exact file?_eq_some.mpr (locate_place hr ▸ hfind)

theorem Grows.file? (h : Grows d d') : d'.file? = d.file? := by
  funext k
  ext ⟨bytes, t⟩
  rw [file?_eq_some, file?_eq_some]
  refine ⟨fun hk => ?_, h.kept⟩
  obtain hk | ⟨-, hk⟩ := h.added hk
  · exact hk
  · cases hk

theorem file?_put (hk : k ≠ []) (bytes : List UInt8) (t : ℤ) :
    (d.put k (.file bytes t)).file? = Function.update d.file? k (some (bytes, t)) := by
  funext q
  by_cases hq : q = k
  · subst hq
    rw [Function.update_self, file?_eq_some, find?_put hk, if_pos rfl]
  · rw [Function.update_of_ne hq]
    apply file?_congr
    by_cases hnil : q = []
    · subst hnil
      rw [find?_nil, find?_nil]
    · rw [find?_put hnil, if_neg hq]

theorem not_hasDirectory (hk : d.find? k = some (.file bytes t)) : ¬d.HasDirectory k := by
  rintro ⟨u, hu⟩
  rw [hk] at hu
  cases hu

theorem isTree_erase_file (hd : d.IsTree) (hk : d.find? k = some (.file bytes t)) : (d.erase k).IsTree := by
  apply isTree_erase hd
  intro hprefix
  obtain ⟨u, hu⟩ := hd.current
  by_cases heq : d.current = k
  · exact not_hasDirectory hk (heq ▸ hd.current)
  · rw [hd.find?_below (not_hasDirectory hk) hprefix heq] at hu
    cases hu

theorem file?_erase (hd : d.IsTree) (hk : d.find? k = some (.file bytes t)) :
    (d.erase k).file? = Function.update d.file? k none := by
  have hne : k ≠ [] := by
    rintro rfl
    exact not_hasDirectory hk (hasDirectory_nil d)
  funext q
  by_cases hq : q = k
  · subst hq
    unfold file?
    rw [Function.update_self, find?_erase hne, if_pos List.prefix_rfl]
  · rw [Function.update_of_ne hq]
    apply file?_congr
    by_cases hnil : q = []
    · subst hnil
      rw [find?_nil, find?_nil]
    · rw [find?_erase hnil]
      by_cases hbelow : k <+: q
      · rw [if_pos hbelow, hd.find?_below (not_hasDirectory hk) hbelow hq]
      · rw [if_neg hbelow]

/-! ## Changes at one place -/

/-- The file at the place is the given one afterwards, or the change failed; the other files are as they
were. -/
structure Sets (k : Place) (v : Option (List UInt8 × ℤ)) (d d' : Disk) : Prop where
  isTree : d'.IsTree
  current : d'.current = d.current
  now : d'.now = d.now
  file? : d'.file? = d.file? ∨ d'.file? = Function.update d.file? k v

variable {v : Option (List UInt8 × ℤ)}

theorem Grows.sets (h : Grows d d') (hd' : d'.IsTree) : Sets k v d d' :=
  ⟨hd', h.current, h.now, .inl h.file?⟩

theorem Sets.after (h : Sets k v d' d'') (hgrows : Grows d d') : Sets k v d d'' where
  isTree := h.isTree
  current := h.current.trans hgrows.current
  now := h.now.trans hgrows.now
  file? := by
    rw [← hgrows.file?]
    exact h.file?

theorem put_sets (hd : d.IsTree) {r : Place} (hr : d.locate p = .ok r) (hfile : ¬d.HasDirectory r)
    (bytes : List UInt8) (t : ℤ) : Sets (d.place p) (some (bytes, t)) d (d.put r (.file bytes t)) where
  isTree := (isTree_put_file hd (hd.locate_parent hr) hfile bytes t).2
  current := current_put d r _
  now := now_put d r _
  file? := by
    right
    rw [← locate_place hr]
    apply file?_put
    rintro rfl
    exact hfile (hasDirectory_nil d)

theorem Replaced.file? (h : Replaced p bytes d d') :
    d'.file? = Function.update d.file? (d.place p) (some (bytes, d.now)) := by
  funext q
  by_cases hq : q = d.place p
  · subst hq
    rw [Function.update_self, file?_eq_some, h.find?]
  · rw [Function.update_of_ne hq]
    ext ⟨content, t⟩
    rw [file?_eq_some, file?_eq_some]
    refine ⟨fun he => ?_, h.kept hq⟩
    obtain he | ⟨-, hfile⟩ := h.added hq he
    · exact he
    · cases hfile

/-- **Replacing a file** changes it at its place. -/
theorem replace_sets (hd : d.IsTree) (p : Path) (bytes : List UInt8) :
    Sets (d.place p) (some (bytes, d.now)) d (stateAfter (replace p bytes d)) := by
  cases h : replace p bytes d with
  | error f d' =>
    obtain ⟨hgrows, hd'⟩ := replace_error hd h
    exact hgrows.sets hd'
  | ok a d' =>
    have hreplaced := replace_replaced hd h
    exact ⟨hreplaced.isTree, hreplaced.current, hreplaced.now, .inr hreplaced.file?⟩

/-- Writes a file, with the directories above it. -/
def save (p : Path) (bytes : List UInt8) : Change Unit := do
  makeDirectories p.parent
  write p bytes

/-- Removes a file. -/
def discard (p : Path) : Change Unit := do
  if ← ask (·.isFile p) then remove p
  else throw .notFound

theorem write_of_locate {r : Place} (hr : d.locate p = .ok r) (hfile : ¬d.HasDirectory r) (bytes : List UInt8) :
    write p bytes d = .ok () (d.put r (.file bytes d.now)) := by
  rw [write_apply, hr]
  dsimp only
  split
  · rename_i u hu
    exact absurd ⟨u, hu⟩ hfile
  · rfl

theorem write_sets (hd : d.IsTree) (p : Path) (bytes : List UInt8) :
    Sets (d.place p) (some (bytes, d.now)) d (stateAfter (write p bytes d)) := by
  cases hr : d.locate p with
  | error f =>
    rw [write_apply, hr]
    exact (Grows.refl d).sets hd
  | ok r =>
    by_cases hdirectory : d.HasDirectory r
    · obtain ⟨u, hu⟩ := hdirectory
      rw [write_apply, hr]
      simp only [hu]
      exact (Grows.refl d).sets hd
    · rw [write_of_locate hr hdirectory]
      exact put_sets hd hr hdirectory bytes d.now

theorem hasDirectory_put {r : Place} (hfile : ¬d.HasDirectory r) (e : Entry) {q : Place} (hq : d.HasDirectory q) :
    (d.put r e).HasDirectory q := by
  by_cases hnil : q = []
  · exact hnil ▸ hasDirectory_nil _
  · obtain ⟨u, hu⟩ := hq
    refine ⟨u, ?_⟩
    rw [find?_put hnil, if_neg]
    · exact hu
    · rintro rfl
      exact hfile ⟨u, hu⟩

/-- Of two contents that are written to a file the second one stays. -/
theorem write_write (p : Path) (bytes bytes' : List UInt8) (d : Disk) :
    (write p bytes >>= fun _ => write p bytes') d = write p bytes' d := by
  rw [EStateM.bind_apply]
  cases hr : d.locate p with
  | error f => rw [write_apply, write_apply, hr]
  | ok r =>
    by_cases hdirectory : d.HasDirectory r
    · obtain ⟨u, hu⟩ := hdirectory
      rw [write_apply, write_apply, hr]
      dsimp only
      rw [hu]
    · have hne : r ≠ [] := by
        rintro rfl
        exact hdirectory (hasDirectory_nil d)
      have hfile : ¬(d.put r (.file bytes d.now)).HasDirectory r := by
        rintro ⟨u, hu⟩
        rw [find?_put hne, if_pos rfl] at hu
        cases hu
      have hput : (d.put r (.file bytes d.now)).put r (.file bytes' d.now) = d.put r (.file bytes' d.now) := by
        simp [put, List.filter_filter]
      rw [write_of_locate hr hdirectory, write_of_locate hr hdirectory]
      dsimp only
      rw [write_of_locate (locate_mono (current_put d r _) (fun _ => hasDirectory_put hdirectory _) hr) hfile,
        now_put, hput]

/-- **Writing a file** changes it at its place. -/
theorem save_sets (hd : d.IsTree) (p : Path) (bytes : List UInt8) :
    Sets (d.place p) (some (bytes, d.now)) d (stateAfter (save p bytes d)) := by
  rw [save, EStateM.bind_apply]
  cases hmake : makeDirectories p.parent d with
  | error f d' =>
    obtain ⟨hgrows, hd'⟩ := makeDirectories_error hd hmake
    exact hgrows.sets hd'
  | ok a d' =>
    obtain ⟨⟨hgrows, hd'⟩, -⟩ := makeDirectories_ok hd hmake
    have hwrite := write_sets hd' p bytes
    rw [place_congr hgrows.current, hgrows.now] at hwrite
    exact hwrite.after hgrows

theorem save_eq_ok (hd : d.IsTree) (h : save p bytes d = .ok () d') :
    d'.file? = Function.update d.file? (d.place p) (some (bytes, d.now)) := by
  obtain ⟨_, d₁, hmake, hwrite⟩ := EStateM.bind_eq_ok.mp h
  obtain ⟨⟨hgrows, -⟩, -⟩ := makeDirectories_ok hd hmake
  rw [write_apply] at hwrite
  cases hr : d₁.locate p with
  | error f =>
    rw [hr] at hwrite
    cases hwrite
  | ok r =>
    rw [hr] at hwrite
    dsimp only at hwrite
    split at hwrite
    · cases hwrite
    · rename_i hfile
      cases hwrite
      have hne : r ≠ [] := by
        rintro rfl
        exact hfile _ (find?_nil d₁)
      rw [file?_put hne, hgrows.file?, hgrows.now, locate_place hr, place_congr hgrows.current]

theorem exists_save (h : save p bytes d = .ok () d') (bytes' : List UInt8) :
    ∃ d'', save p bytes' d = .ok () d'' := by
  obtain ⟨_, d₁, hmake, hwrite⟩ := EStateM.bind_eq_ok.mp h
  rw [save, EStateM.bind_apply, hmake]
  dsimp only
  rw [write_apply] at hwrite ⊢
  cases hr : d₁.locate p with
  | error f =>
    rw [hr] at hwrite
    cases hwrite
  | ok r =>
    rw [hr] at hwrite
    dsimp only at hwrite ⊢
    split at hwrite
    · cases hwrite
    · exact ⟨_, rfl⟩

theorem save_error (hd : d.IsTree) {f : FileFault} (h : save p bytes d = .error f d') : Grows d d' := by
  rw [save, EStateM.bind_apply] at h
  cases hmake : makeDirectories p.parent d with
  | error f d₁ =>
    rw [hmake] at h
    cases h
    exact (makeDirectories_error hd hmake).1
  | ok a d₁ =>
    rw [hmake] at h
    obtain ⟨⟨hgrows, -⟩, -⟩ := makeDirectories_ok hd hmake
    rw [write_error h]
    exact hgrows

/-- **Removing a file** leaves none at its place. -/
theorem discard_sets (hd : d.IsTree) (p : Path) :
    Sets (d.place p) none d (stateAfter (discard p d)) := by
  have hfail : Sets (d.place p) none d d := (Grows.refl d).sets hd
  rw [discard, EStateM.bind_apply, ask_apply]
  cases hfile : d.isFile p with
  | error f => exact hfail
  | ok there =>
    cases there with
    | false => exact hfail
    | true =>
      obtain ⟨b, u, hstat⟩ := isFile_eq_true.mp hfile
      obtain ⟨r, hr, hfind⟩ := stat_eq_ok.mp hstat
      have hremove : remove p d = .ok () (d.erase r) := by
        rw [remove_apply, hr]
        simp [hfind]
      change Sets (d.place p) none d (stateAfter (remove p d))
      rw [hremove, ← locate_place hr]
      exact ⟨isTree_erase_file hd hfind, current_erase d r, now_erase d r, .inr (file?_erase hd hfind)⟩

end Gabarit.Disk
