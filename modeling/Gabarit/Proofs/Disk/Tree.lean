import Gabarit.Disk.Basic
import Gabarit.Proofs.Outcome
import Mathlib.Data.List.Induction

/-!
# Disks as trees

* `find?_put`, `find?_erase`: what stands at a place after a change;
* `IsTree`, `isTree_iff`: what stands on a disk stands in a directory, which its entries decide;
* `Disk.place`: where a path leads to by its components;
* `follow_eq_climb`, `follow_mono`: a path that leads somewhere leads to its place, and still does so with
  more directories;
* `Alike`, `Grows`, `Gains`: disks with the same entries, with more directories, and with one more file.
-/

namespace Gabarit.Disk

/-! ## Entries -/

variable {d d' : Disk} {p q : Place} {e : Entry}

@[simp] theorem find?_nil (d : Disk) : d.find? [] = some (.directory directoryTime) := if_pos rfl

theorem find?_of_ne (d : Disk) (h : p ≠ []) : d.find? p = d.entries.lookup p := if_neg h

theorem lookup_filter {α : Type} {entries : List (Place × α)} {f : Place × α → Bool}
    (h : ∀ a, f (p, a) = true) : (entries.filter f).lookup p = entries.lookup p := by
  induction entries with
  | nil => rfl
  | cons entry entries ih =>
    obtain ⟨q, a⟩ := entry
    by_cases hpq : p = q
    · subst hpq
      rw [List.filter_cons_of_pos (h a), List.lookup_cons_self, List.lookup_cons_self]
    · have hne : (p == q) = false := beq_false_of_ne hpq
      rw [List.lookup_cons, hne, ← ih]
      by_cases hf : f (q, a) = true
      · rw [List.filter_cons_of_pos hf, List.lookup_cons, hne]
      · rw [List.filter_cons_of_neg hf]

theorem lookup_filter_none {α : Type} {entries : List (Place × α)} {f : Place × α → Bool}
    (h : ∀ a, f (p, a) = false) : (entries.filter f).lookup p = none := by
  rw [List.lookup_eq_none_iff]
  rintro ⟨q, a⟩ hmem
  rw [bne_iff_ne]
  rintro rfl
  have := (List.mem_filter.mp hmem).2
  rw [h a] at this
  cases this

theorem find?_put (hp : p ≠ []) : (d.put q e).find? p = if p = q then some e else d.find? p := by
  rw [find?_of_ne _ hp, find?_of_ne _ hp, put, List.lookup_cons]
  split_ifs with h
  · rw [beq_iff_eq.mpr h]
  · rw [beq_false_of_ne h]
    exact lookup_filter fun a => by simp [h]

theorem find?_erase (hp : p ≠ []) : (d.erase q).find? p = if q <+: p then none else d.find? p := by
  rw [find?_of_ne _ hp, find?_of_ne _ hp, erase]
  split_ifs with h
  · exact lookup_filter_none fun a => by simp [h]
  · refine lookup_filter fun a => ?_
    rw [Bool.not_eq_true', Bool.eq_false_iff, Ne, List.isPrefixOf_iff_prefix]
    exact h

@[simp] theorem current_put (d : Disk) (q : Place) (e : Entry) : (d.put q e).current = d.current := rfl

@[simp] theorem now_put (d : Disk) (q : Place) (e : Entry) : (d.put q e).now = d.now := rfl

@[simp] theorem current_erase (d : Disk) (q : Place) : (d.erase q).current = d.current := rfl

@[simp] theorem now_erase (d : Disk) (q : Place) : (d.erase q).now = d.now := rfl

/-! ## Trees -/

/-- A directory stands at a place. -/
def HasDirectory (d : Disk) (p : Place) : Prop := ∃ t, d.find? p = some (.directory t)

theorem hasDirectory_nil (d : Disk) : d.HasDirectory [] := ⟨_, find?_nil d⟩

instance (d : Disk) (p : Place) : Decidable (d.HasDirectory p) :=
  match h : d.find? p with
  | some (.directory t) => .isTrue ⟨t, h⟩
  | some (.file ..) | none => .isFalse fun ⟨_, ht⟩ => nomatch h.symm.trans ht

/-- What stands on the disk stands in a directory, and the current directory is one. -/
structure IsTree (d : Disk) : Prop where
  parent : ∀ {p e}, d.find? p = some e → d.HasDirectory p.dropLast
  current : d.HasDirectory d.current

/-- A disk is a tree if each of its entries has a directory. -/
theorem isTree_iff : d.IsTree ↔
    (∀ x ∈ d.entries, d.HasDirectory x.1.dropLast) ∧ d.HasDirectory d.current := by
  refine ⟨fun h => ⟨fun x hx => ?_, h.current⟩, fun ⟨h, hcurrent⟩ => ⟨fun {p e} hp => ?_, hcurrent⟩⟩
  · obtain hroot | hne := eq_or_ne x.1 []
    · rw [hroot]
      exact hasDirectory_nil d
    · -- an entry for the same place may stand before this one, but then that is found
      cases hfind : d.find? x.1 with
      | some e => exact h.parent hfind
      | none =>
        rw [find?_of_ne _ hne, List.lookup_eq_none_iff] at hfind
        exact absurd rfl (bne_iff_ne.mp (hfind x hx))
  · obtain rfl | hne := eq_or_ne p []
    · exact hasDirectory_nil d
    · rw [find?_of_ne _ hne] at hp
      obtain ⟨before, after, hentries, -⟩ := List.lookup_eq_some_iff.mp hp
      exact h (p, e) (hentries ▸ List.mem_append_right _ List.mem_cons_self)

instance (d : Disk) : Decidable d.IsTree := decidable_of_iff' _ isTree_iff

/-- A directory with one entry is a tree. -/
theorem isTree_pair (directory name : String) (t : Int) (e : Entry) (now : Int) :
    IsTree ⟨[([directory], .directory t), ([directory, name], e)], [], now⟩ := by
  refine isTree_iff.mpr ⟨?_, hasDirectory_nil _⟩
  rintro x (_ | ⟨_, _ | ⟨_, ⟨⟩⟩⟩)
  · exact hasDirectory_nil _
  · exact ⟨t, by simp [find?_of_ne]⟩

/-- Where a path leads to by its components. -/
def place (d : Disk) (p : Path) : Place := climb (d.start p) p.parts

/-- Nothing stands below a place without a directory. -/
theorem IsTree.find?_below (h : d.IsTree) (hp : ¬d.HasDirectory p) {q : Place} (hq : p <+: q)
    (hne : q ≠ p) : d.find? q = none := by
  obtain ⟨rest, rfl⟩ := hq
  induction rest using List.reverseRecOn with
  | nil => exact absurd (List.append_nil p) hne
  | append_singleton rest name ih =>
    cases hfind : d.find? (p ++ (rest ++ [name])) with
    | none => rfl
    | some e =>
      have hparent := h.parent hfind
      rw [← List.append_assoc, List.dropLast_concat] at hparent
      obtain rfl | hrest := eq_or_ne rest []
      · rw [List.append_nil] at hparent
        exact absurd hparent hp
      · obtain ⟨t, ht⟩ := hparent
        rw [ih (by simpa using hrest)] at ht
        cases ht

/-! ## Following paths -/

theorem follow_cons {here r : Place} {name : String} {rest : List String} :
    d.follow here (name :: rest) = .ok r ↔ d.HasDirectory here ∧
      (name = ".." ∧ d.follow here.dropLast rest = .ok r ∨
        name ≠ ".." ∧ name.utf8ByteSize ≤ nameLimit ∧ d.follow (here ++ [name]) rest = .ok r) := by
  rw [follow]
  cases hfind : d.find? here with
  | none => simp [HasDirectory, hfind]
  | some e =>
    cases e with
    | file bytes t => simp [HasDirectory, hfind]
    | directory t =>
      have hdir : d.HasDirectory here := ⟨t, hfind⟩
      by_cases hup : name = ".."
      · simp [hdir, hup]
      · by_cases hlong : nameLimit < name.utf8ByteSize
        · simp [hup, hlong, Nat.not_le.mpr hlong]
        · simp [hdir, hup, hlong, Nat.not_lt.mp hlong]

/-- A path that leads somewhere leads where its components say. -/
theorem follow_eq_climb {here r : Place} {names : List String} (h : d.follow here names = .ok r) :
    r = climb here names := by
  induction names generalizing here with
  | nil => exact (Except.ok.inj h).symm
  | cons name rest ih =>
    obtain ⟨-, ⟨hup, h⟩ | ⟨hup, -, h⟩⟩ := follow_cons.mp h
    · rw [climb, if_pos hup, ih h]
    · rw [climb, if_neg hup, ih h]

theorem follow_mono (hdir : ∀ p, d.HasDirectory p → d'.HasDirectory p) {here r : Place}
    {names : List String} (h : d.follow here names = .ok r) : d'.follow here names = .ok r := by
  induction names generalizing here with
  | nil => exact h
  | cons name rest ih =>
    rw [follow_cons] at h ⊢
    obtain ⟨hhere, ⟨hup, h⟩ | ⟨hup, hlen, h⟩⟩ := h
    · exact ⟨hdir _ hhere, .inl ⟨hup, ih h⟩⟩
    · exact ⟨hdir _ hhere, .inr ⟨hup, hlen, ih h⟩⟩

theorem follow_append (here : Place) (names names' : List String) :
    d.follow here (names ++ names') = (d.follow here names).bind fun p => d.follow p names' := by
  induction names generalizing here with
  | nil => rfl
  | cons name rest ih =>
    rw [List.cons_append, follow, follow]
    cases d.find? here with
    | none => rfl
    | some e =>
      cases e with
      | file bytes t => rfl
      | directory t =>
        dsimp only
        split_ifs
        · exact ih _
        · rfl
        · exact ih _

theorem climb_append (here : Place) (names names' : List String) :
    climb here (names ++ names') = climb (climb here names) names' := by
  induction names generalizing here with
  | nil => rfl
  | cons name rest ih => exact ih _

/-- What a path leads to stands in a directory, if it stands anywhere. -/
theorem IsTree.follow_parent (hd : d.IsTree) {here r : Place} {names : List String}
    (hhere : d.HasDirectory here.dropLast) (h : d.follow here names = .ok r) :
    d.HasDirectory r.dropLast := by
  induction names generalizing here with
  | nil =>
    cases h
    exact hhere
  | cons name rest ih =>
    obtain ⟨hdir, ⟨-, h⟩ | ⟨-, -, h⟩⟩ := follow_cons.mp h
    · obtain ⟨t, ht⟩ := hhere
      exact ih (hd.parent ht) h
    · refine ih ?_ h
      rwa [List.dropLast_concat]

/-- The name goes down one directory, and is not too long for that. -/
def GoesDown (name : String) : Prop := name ≠ ".." ∧ name.utf8ByteSize ≤ nameLimit

theorem climb_of_goesDown {here : Place} {names : List String} (h : ∀ name ∈ names, GoesDown name) :
    climb here names = here ++ names := by
  induction names generalizing here with
  | nil => rw [climb, List.append_nil]
  | cons name rest ih =>
    rw [List.forall_mem_cons] at h
    rw [climb, if_neg h.1.1, ih h.2, List.append_assoc, List.singleton_append]

/-- A place on a tree is where its components lead to from a place above. -/
theorem IsTree.follow_of_find? (hd : d.IsTree) {here : Place} {names : List String}
    (hnames : ∀ name ∈ names, GoesDown name) (hfind : d.find? (here ++ names) = some e) :
    d.follow here names = .ok (here ++ names) := by
  induction names generalizing here with
  | nil => rw [follow, List.append_nil]
  | cons name rest ih =>
    rw [List.forall_mem_cons] at hnames
    have hhere : d.HasDirectory here := by
      by_contra hno
      rw [hd.find?_below hno (List.prefix_append _ _) (by simp)] at hfind
      cases hfind
    rw [List.append_cons] at hfind ⊢
    exact follow_cons.mpr ⟨hhere, .inr ⟨hnames.1.1, hnames.1.2, ih hnames.2 hfind⟩⟩

theorem follow_ne_long {here : Place} {names : List String} (h : ∀ name ∈ names, GoesDown name) :
    d.follow here names ≠ .error .nameTooLong := by
  induction names generalizing here with
  | nil => simp [follow]
  | cons name rest ih =>
    rw [List.forall_mem_cons] at h
    rw [follow]
    obtain _ | ⟨b, t⟩ | ⟨t⟩ := d.find? here
    · simp
    · simp
    · dsimp only
      rw [if_neg h.1.1, if_neg (Nat.not_lt.mpr h.1.2)]
      exact ih h.2

/-! ## Paths -/

theorem locate_eq_ok {p : Path} {r : Place} : d.locate p = .ok r ↔
    hasNul p = false ∧ p.text.utf8ByteSize < pathLimit ∧ d.follow (d.start p) p.parts = .ok r := by
  unfold locate
  by_cases hnul : hasNul p = true
  · simp [hnul]
  · by_cases hlong : pathLimit ≤ p.text.utf8ByteSize
    · simp [hnul, hlong, Nat.not_lt.mpr hlong]
    · simp [hnul, hlong, Nat.not_le.mp hlong]

theorem locate_place {p : Path} {r : Place} (h : d.locate p = .ok r) : r = d.place p :=
  follow_eq_climb (locate_eq_ok.mp h).2.2

theorem start_congr (hcurrent : d'.current = d.current) (p : Path) : d'.start p = d.start p := by
  rw [start, start, hcurrent]

theorem place_congr (hcurrent : d'.current = d.current) (p : Path) : d'.place p = d.place p := by
  rw [place, place, start_congr hcurrent]

theorem locate_mono (hcurrent : d'.current = d.current)
    (hdir : ∀ p, d.HasDirectory p → d'.HasDirectory p) {p : Path} {r : Place} (h : d.locate p = .ok r) :
    d'.locate p = .ok r := by
  rw [locate_eq_ok] at h ⊢
  rw [start_congr hcurrent]
  exact ⟨h.1, h.2.1, follow_mono hdir h.2.2⟩

theorem IsTree.start_parent (hd : d.IsTree) (p : Path) : d.HasDirectory (d.start p).dropLast := by
  unfold start
  split_ifs
  · exact hasDirectory_nil d
  · obtain ⟨t, ht⟩ := hd.current
    exact hd.parent ht

theorem IsTree.locate_parent (hd : d.IsTree) {p : Path} {r : Place} (h : d.locate p = .ok r) :
    d.HasDirectory r.dropLast :=
  hd.follow_parent (hd.start_parent p) (locate_eq_ok.mp h).2.2

theorem stat_eq_ok {p : Path} {e : Entry} :
    d.stat p = .ok e ↔ ∃ r, d.locate p = .ok r ∧ d.find? r = some e := by
  rw [stat, bind_eq_ok]
  refine exists_congr fun r => and_congr_right fun _ => ?_
  cases d.find? r <;> simp [pure, Except.pure, throw, throwThe, MonadExceptOf.throw]

theorem read_eq_ok {p : Path} {bytes : List UInt8} :
    d.read p = .ok bytes ↔ ∃ t, d.stat p = .ok (.file bytes t) := by
  rw [read, bind_eq_ok]
  constructor
  · rintro ⟨e, he, h⟩
    cases e with
    | file b t =>
      cases h
      exact ⟨t, he⟩
    | directory t => cases h
  · rintro ⟨t, he⟩
    exact ⟨_, he, rfl⟩

theorem isFile_eq_true {p : Path} :
    d.isFile p = .ok true ↔ ∃ bytes t, d.stat p = .ok (.file bytes t) := by
  rw [isFile, holds]
  cases hstat : d.stat p with
  | error f => by_cases hf : isAbsence f = true <;> simp [hf]
  | ok e => cases e <;> simp [Entry.isFile]

/-! ## Changes -/

/-- The same stands on both disks. -/
structure Alike (d d' : Disk) : Prop where
  find? : ∀ p, d'.find? p = d.find? p
  current : d'.current = d.current
  now : d'.now = d.now

theorem Alike.refl (d : Disk) : Alike d d := ⟨fun _ => rfl, rfl, rfl⟩

theorem Alike.hasDirectory (h : Alike d d') (p : Place) : d'.HasDirectory p ↔ d.HasDirectory p := by
  rw [HasDirectory, HasDirectory, h.find?]

theorem Alike.isTree (h : Alike d d') (hd : d.IsTree) : d'.IsTree where
  parent hp := (h.hasDirectory _).mpr (hd.parent (h.find? _ ▸ hp))
  current := by
    rw [h.current, h.hasDirectory]
    exact hd.current

theorem follow_congr (h : ∀ p, d'.find? p = d.find? p) (here : Place) (names : List String) :
    d'.follow here names = d.follow here names := by
  induction names generalizing here with
  | nil => rfl
  | cons name rest ih =>
    rw [follow, follow, h]
    simp only [ih]

theorem Alike.locate (h : Alike d d') (p : Path) : d'.locate p = d.locate p := by
  rw [Disk.locate, Disk.locate, start_congr h.current, follow_congr h.find?]

theorem Alike.stat (h : Alike d d') (p : Path) : d'.stat p = d.stat p := by
  rw [Disk.stat, Disk.stat, h.locate]
  simp only [h.find?]

/-- The second disk has all that the first one has, and directories beside. -/
structure Grows (d d' : Disk) : Prop where
  kept : ∀ {p e}, d.find? p = some e → d'.find? p = some e
  added : ∀ {p e}, d'.find? p = some e → d.find? p = some e ∨ d.find? p = none ∧ e.isFile = false
  current : d'.current = d.current
  now : d'.now = d.now

theorem Alike.grows (h : Alike d d') : Grows d d' where
  kept hp := (h.find? _).trans hp
  added hp := .inl ((h.find? _).symm.trans hp)
  current := h.current
  now := h.now

theorem Grows.refl (d : Disk) : Grows d d := (Alike.refl d).grows

theorem Grows.trans {d'' : Disk} (h : Grows d d') (h' : Grows d' d'') : Grows d d'' where
  kept hp := h'.kept (h.kept hp)
  added hp := by
    obtain hp | ⟨hp, he⟩ := h'.added hp
    · exact h.added hp
    · refine .inr ⟨?_, he⟩
      by_contra hne
      obtain ⟨e, he⟩ := Option.ne_none_iff_exists'.mp hne
      rw [h.kept he] at hp
      cases hp
  current := h'.current.trans h.current
  now := h'.now.trans h.now

theorem Grows.hasDirectory (h : Grows d d') (p : Place) (hp : d.HasDirectory p) : d'.HasDirectory p := by
  obtain ⟨t, ht⟩ := hp
  exact ⟨t, h.kept ht⟩

theorem Grows.locate (h : Grows d d') {p : Path} {r : Place} (hp : d.locate p = .ok r) :
    d'.locate p = .ok r :=
  locate_mono h.current h.hasDirectory hp

/-- The second disk has all that the first one has, and beside that directories, and perhaps a file at a
place. -/
structure Gains (c : Place) (d d' : Disk) : Prop where
  kept : ∀ {p e}, d.find? p = some e → d'.find? p = some e
  added : ∀ {p e}, d'.find? p = some e →
    d.find? p = some e ∨ d.find? p = none ∧ (e.isFile = false ∨ p = c)
  current : d'.current = d.current

theorem Grows.gains (h : Grows d d') (c : Place) : Gains c d d' where
  kept := h.kept
  added hp := (h.added hp).imp_right fun ⟨hnone, he⟩ => ⟨hnone, .inl he⟩
  current := h.current

theorem Gains.hasDirectory {c : Place} (h : Gains c d d') (p : Place) (hp : d.HasDirectory p) :
    d'.HasDirectory p := by
  obtain ⟨t, ht⟩ := hp
  exact ⟨t, h.kept ht⟩

theorem Gains.locate {c : Place} (h : Gains c d d') {p : Path} {r : Place} (hp : d.locate p = .ok r) :
    d'.locate p = .ok r :=
  locate_mono h.current h.hasDirectory hp

theorem Gains.stat {c : Place} (h : Gains c d d') {p : Path} (hp : d.stat p = .ok e) :
    d'.stat p = .ok e := by
  rw [stat_eq_ok] at hp ⊢
  obtain ⟨r, hr, he⟩ := hp
  exact ⟨r, h.locate hr, h.kept he⟩

theorem Gains.read {c : Place} (h : Gains c d d') {p : Path} {bytes : List UInt8}
    (hp : d.read p = .ok bytes) : d'.read p = .ok bytes := by
  rw [read_eq_ok] at hp ⊢
  obtain ⟨t, ht⟩ := hp
  exact ⟨t, h.stat ht⟩

/-- A new directory in a directory leaves a tree. -/
theorem grows_put_directory (hd : d.IsTree) (hparent : d.HasDirectory p.dropLast) (hp : d.find? p = none)
    (t : Int) : Grows d (d.put p (.directory t)) ∧ (d.put p (.directory t)).IsTree := by
  have hne : p ≠ [] := by
    rintro rfl
    rw [find?_nil] at hp
    cases hp
  have hfind (q : Place) : (d.put p (.directory t)).find? q =
      if q = p then some (.directory t) else d.find? q := by
    obtain rfl | hq := eq_or_ne q []
    · rw [find?_nil, if_neg hne.symm, find?_nil]
    · exact find?_put hq
  have hgrows : Grows d (d.put p (.directory t)) := by
    refine ⟨fun {q e} hq => ?_, fun {q e} hq => ?_, rfl, rfl⟩
    · rw [hfind, if_neg, hq]
      rintro rfl
      rw [hp] at hq
      cases hq
    · rw [hfind] at hq
      split_ifs at hq with h
      · cases hq
        exact .inr ⟨h ▸ hp, rfl⟩
      · exact .inl hq
  refine ⟨hgrows, fun {q e} hq => ?_, hgrows.hasDirectory _ hd.current⟩
  rw [hfind] at hq
  split_ifs at hq with h
  · subst h
    exact hgrows.hasDirectory _ hparent
  · exact hgrows.hasDirectory _ (hd.parent hq)

/-- A file where no directory is leaves all directories, and a tree. -/
theorem isTree_put_file (hd : d.IsTree) (hparent : d.HasDirectory p.dropLast) (hp : ¬d.HasDirectory p)
    (bytes : List UInt8) (t : Int) :
    (∀ q, (d.put p (.file bytes t)).HasDirectory q ↔ d.HasDirectory q) ∧
      (d.put p (.file bytes t)).IsTree := by
  have hdir (q : Place) : (d.put p (.file bytes t)).HasDirectory q ↔ d.HasDirectory q := by
    obtain rfl | hq := eq_or_ne q []
    · simp [hasDirectory_nil]
    · rw [HasDirectory, find?_put hq]
      split_ifs with h
      · subst h
        simp [hp]
      · rfl
  refine ⟨hdir, fun {q e} hq => ?_, (hdir _).mpr hd.current⟩
  rw [hdir]
  obtain rfl | hne := eq_or_ne q []
  · exact hasDirectory_nil d
  · rw [find?_put hne] at hq
    split_ifs at hq with h
    · exact h ▸ hparent
    · exact hd.parent hq

/-- Without what stands at a place and below it, a tree is left if the place is not above the current
directory. -/
theorem isTree_erase (hd : d.IsTree) (hp : ¬q <+: d.current) : (d.erase q).IsTree := by
  have hfind {p : Place} (hpq : ¬q <+: p) : (d.erase q).find? p = d.find? p := by
    obtain rfl | hne := eq_or_ne p []
    · rw [find?_nil, find?_nil]
    · rw [find?_erase hne, if_neg hpq]
  refine ⟨fun {p e} hfound => ?_, ?_⟩
  · obtain rfl | hne := eq_or_ne p []
    · exact hasDirectory_nil _
    · have hpq : ¬q <+: p := by
        intro hpq
        rw [find?_erase hne, if_pos hpq] at hfound
        cases hfound
      rw [hfind hpq] at hfound
      obtain ⟨t, ht⟩ := hd.parent hfound
      exact ⟨t, (hfind fun h => hpq (h.trans (List.dropLast_prefix p))).trans ht⟩
  · obtain ⟨t, ht⟩ := hd.current
    exact ⟨t, (hfind hp).trans ht⟩

end Gabarit.Disk
