import Gabarit.Proofs.Number.Numeral
import Gabarit.Proofs.Outcome
import Gabarit.Yaml.Implicit

/-!
# Integers of plain texts

A plain text that has the form of an integer writes one, with few exceptions.

* `numberIn_ends`: digits of a base write a number, unless there are none or too many;
* `Groups`, `mem_groupsOf`: numbers divided by colons;
* `exists_splitSign`: what is left without the sign and the underscores;
* `IntEnds`, `intOfText_ends`: how an integer is read, by its first characters;
* `NoInteger`, **`intOfText_form`**: the texts that have the form of an integer.
-/

namespace Gabarit.Yaml

open Text

variable {text cs ds rest : List Char} {c d : Char} {P : Fault → Prop}

/-! ## Digits -/

theorem mem_filter_gap {p : Char → Bool} (h : cs.all (fun c => p c || c == '_') = true) :
    ∀ c ∈ cs.filter (· != '_'), p c = true := by
  intro c hc
  obtain ⟨hmem, hgap⟩ := List.mem_filter.mp hc
  obtain hp | hunder := Bool.or_eq_true_iff.mp (List.all_eq_true.mp h c hmem)
  · exact hp
  · rw [bne_iff_ne] at hgap
    exact absurd (eq_of_beq hunder) hgap

theorem ne_of_isDigit (hc : c.isDigit = true) (hd : d.isDigit = false) : c ≠ d := by
  rintro rfl
  rw [hc] at hd
  cases hd

theorem ne_signs_of_isDigit (h : c.isDigit = true) : c ≠ '_' ∧ c ≠ '-' ∧ c ≠ '+' :=
  ⟨ne_of_isDigit h rfl, ne_of_isDigit h rfl, ne_of_isDigit h rfl⟩

theorem exists_span (p : Char → Bool) (cs : List Char) :
    ∃ as, (∀ c ∈ as, p c = true) ∧ cs = as ++ cs.dropWhile p :=
  ⟨cs.takeWhile p, List.all_eq_true.mp List.all_takeWhile, List.takeWhile_append_dropWhile.symm⟩

theorem digitIn?_of_isDigit {base : ℕ} (h : c.isDigit = true) (hbase : c.toNat < 48 + base) :
    (digitIn? base c).isSome = true := by
  have hc := isDigit_iff.mp h
  unfold digitIn?
  dsimp only
  rw [if_pos h, if_pos (by omega)]
  rfl

theorem digitIn?_of_octal (h : ('0' ≤ c && c ≤ '7') = true) : (digitIn? 8 c).isSome = true := by
  simp only [Bool.and_eq_true, decide_eq_true_eq, Char.le_def, UInt32.le_iff_toNat_le] at h
  have hrange : 48 ≤ c.toNat ∧ c.toNat ≤ 55 := h
  exact digitIn?_of_isDigit (isDigit_iff.mpr (by omega)) (by omega)

theorem digitIn?_of_hexDigit? (h : (hexDigit? c).isSome = true) : (digitIn? 16 c).isSome = true := by
  have hc : c.toNat < 103 := by
    unfold hexDigit? at h
    dsimp only at h
    split_ifs at h
    · omega
    · omega
    · omega
    · cases h
  have hall : ∀ n < 103, (hexDigit? (Char.ofNat n)).isSome = true →
      (digitIn? 16 (Char.ofNat n)).isSome = true := by
    decide
  have hdigit := hall c.toNat hc
  rw [Char.ofNat_toNat] at hdigit
  exact hdigit h

theorem isAlphanum_of_digitIn? {base : ℕ} (h : (digitIn? base c).isSome = true) : c.isAlphanum = true := by
  unfold digitIn? at h
  dsimp only at h
  by_cases hdigit : c.isDigit = true
  · simp [Char.isAlphanum, hdigit]
  · by_cases halpha : c.isAlpha = true
    · simp [Char.isAlphanum, halpha]
    · rw [if_neg hdigit, if_neg halpha, if_neg (Nat.lt_irrefl _)] at h
      cases h

theorem isAlphanum_plain (h : c.isAlphanum = true) :
    c.toNat < 128 ∧ isNumeralBlank c = false ∧ c ≠ '-' ∧ c ≠ '+' := by
  have hne {d : Char} (hd : d.isAlphanum = false) : c ≠ d := by
    rintro rfl
    rw [h] at hd
    cases hd
  have hrange : 48 ≤ c.toNat ∧ c.toNat < 128 := by
    unfold Char.isAlphanum Char.isAlpha Char.isUpper Char.isLower Char.isDigit at h
    simp only [Bool.or_eq_true, Bool.and_eq_true, decide_eq_true_eq, UInt32.le_iff_toNat_le, ge_iff_le] at h
    have hval : c.toNat = c.val.toNat := rfl
    have hz : 'z'.val.toNat = 122 := rfl
    have hZ : 'Z'.val.toNat = 90 := rfl
    have h9 : '9'.val.toNat = 57 := rfl
    have ha : 'a'.val.toNat = 97 := rfl
    have hA : 'A'.val.toNat = 65 := rfl
    have h0 : '0'.val.toNat = 48 := rfl
    omega
  refine ⟨hrange.2, ?_, hne rfl, hne rfl⟩
  simp only [isNumeralBlank, Bool.or_eq_false_iff, beq_eq_false_iff_ne, Bool.and_eq_false_iff,
    decide_eq_false_iff_not]
  exact ⟨hne rfl, .inr (by omega)⟩

theorem mapM_isSome {α β : Type} {g : α → Option β} {as : List α} (h : ∀ a ∈ as, (g a).isSome = true) :
    ∃ bs, as.mapM g = some bs ∧ bs.length = as.length := by
  induction as with
  | nil => exact ⟨[], rfl, rfl⟩
  | cons a as ih =>
    obtain ⟨b, hb⟩ := Option.isSome_iff_exists.mp (h a List.mem_cons_self)
    obtain ⟨bs, hbs, hlength⟩ := ih fun x hx => h x (List.mem_cons_of_mem _ hx)
    refine ⟨b :: bs, ?_, by rw [List.length_cons, List.length_cons, hlength]⟩
    rw [List.mapM_cons, hb, hbs]
    rfl

theorem dropBaseMark_digits {base : ℕ} (hbase : base = 2 ∨ base = 8 ∨ base = 10 ∨ base = 16)
    (hcs : ∀ c ∈ cs, (digitIn? base c).isSome = true) : dropBaseMark base cs = cs := by
  unfold dropBaseMark
  split
  · rename_i m rest
    have hm := hcs m (List.mem_cons_of_mem _ List.mem_cons_self)
    refine if_neg ?_
    rintro (⟨rfl, hmark⟩ | ⟨rfl, hmark⟩ | ⟨rfl, hmark⟩) <;> obtain rfl | rfl := hmark <;> cases hm
  · rfl

/-- Digits of a base write a number, unless there are none or too many. -/
theorem numberIn_ends {base : ℕ} (hbase : base = 2 ∨ base = 8 ∨ base = 10 ∨ base = 16)
    (hcs : ∀ c ∈ cs, (digitIn? base c).isSome = true)
    (hP : cs = [] ∨ base = 10 ∧ digitLimit < cs.length → P .badNumber) :
    EndsWith P (fun _ => True) (numberIn base cs) := by
  have hplain (c : Char) (hc : c ∈ cs) := isAlphanum_plain (isAlphanum_of_digitIn? (hcs c hc))
  have hsign : dropSign cs = cs := by
    unfold dropSign
    split
    · exact absurd rfl (hplain '-' List.mem_cons_self).2.2.1
    · exact absurd rfl (hplain '+' List.mem_cons_self).2.2.2
    · rfl
  obtain ⟨ds, hds, hlength⟩ := mapM_isSome hcs
  unfold numberIn
  dsimp only
  rw [trimNumeral_eq_self fun c hc => ⟨(hplain c hc).1, (hplain c hc).2.1⟩, hsign,
    dropBaseMark_digits hbase hcs, hds]
  dsimp only
  by_cases hbad : (ds.isEmpty || (base == 10 && digitLimit < ds.length)) = true
  · rw [if_pos hbad]
    simp only [Bool.or_eq_true, Bool.and_eq_true, List.isEmpty_iff, beq_iff_eq, decide_eq_true_eq] at hbad
    rw [← List.length_eq_zero_iff, hlength, List.length_eq_zero_iff] at hbad
    exact .error (hP hbad)
  · rw [if_neg hbad]
    exact .ok trivial

/-! ## Groups -/

/-- Groups of a colon and one or two digits. -/
inductive Groups : List Char → Prop
  | nil : Groups []
  | one {a : Char} {cs : List Char} : a.isDigit = true → Groups cs → Groups (':' :: a :: cs)
  | two {a b : Char} {cs : List Char} : a.isDigit = true → b.isDigit = true → Groups cs →
      Groups (':' :: a :: b :: cs)

theorem Groups.mem {g : List Char} (h : Groups g) : ∀ c ∈ g, c = ':' ∨ c.isDigit = true := by
  induction h with
  | nil => exact fun c hc => absurd hc List.not_mem_nil
  | one ha _ ih => simpa [ha] using ih
  | two ha hb _ ih => simpa [ha, hb] using ih

theorem Groups.filter {g : List Char} (h : Groups g) : g.filter (· != '_') = g := by
  refine List.filter_eq_self.mpr fun c hc => bne_iff_ne.mpr ?_
  obtain rfl | hdigit := h.mem c hc
  · decide
  · exact ne_of_isDigit hdigit rfl

theorem exists_groups (found : Bool) (cs : List Char) :
    ∃ g, Groups g ∧ cs = g ++ (dropGroups found cs).2 := by
  fun_induction dropGroups found cs with
  | case1 found a b rest h ih =>
    obtain ⟨g, hg, hrest⟩ := ih
    have ha : a.isDigit = true := by
      have hle : a ≤ '9' := Char.le_trans h.2.1 (by decide)
      simpa [Char.isDigit, Char.le_def] using And.intro h.1 hle
    exact ⟨_, .two ha h.2.2 hg, congrArg (':' :: a :: b :: ·) hrest⟩
  | case2 found a b rest _ ha ih =>
    obtain ⟨g, hg, hrest⟩ := ih
    exact ⟨_, .one ha hg, congrArg (':' :: a :: ·) hrest⟩
  | case4 found a ha => exact ⟨_, .one ha .nil, rfl⟩
  | case3 | case5 | case6 => exact ⟨[], .nil, rfl⟩

theorem groupsOf_cons (c : Char) (cs : List Char) : ∃ g gs, groupsOf cs = g :: gs ∧
    groupsOf (c :: cs) = if c = ':' then [] :: g :: gs else (c :: g) :: gs := by
  have hne : groupsOf cs ≠ [] := by
    cases cs with
    | nil => exact List.cons_ne_nil _ _
    | cons d cs =>
      rw [groupsOf, List.foldr_cons]
      split
      · exact List.cons_ne_nil _ _
      · split_ifs <;> exact List.cons_ne_nil _ _
  obtain ⟨g, gs, hgroups⟩ := List.exists_cons_of_ne_nil hne
  refine ⟨g, gs, hgroups, ?_⟩
  rw [groupsOf, List.foldr_cons, ← groupsOf, hgroups]

theorem groupsOf_append (hds : ':' ∉ ds) (rest : List Char) :
    groupsOf (ds ++ ':' :: rest) = ds :: groupsOf rest := by
  induction ds with
  | nil =>
    obtain ⟨g, gs, hgroups, hcons⟩ := groupsOf_cons ':' rest
    rw [List.nil_append, hcons, if_pos rfl, hgroups]
  | cons c ds ih =>
    rw [List.mem_cons, not_or] at hds
    obtain ⟨g, gs, hgroups, hcons⟩ := groupsOf_cons c (ds ++ ':' :: rest)
    rw [ih hds.2] at hgroups
    cases hgroups
    rw [List.cons_append, hcons, if_neg (Ne.symm hds.1)]

theorem groupsOf_single (hds : ':' ∉ ds) : groupsOf ds = [ds] := by
  induction ds with
  | nil => rfl
  | cons c ds ih =>
    rw [List.mem_cons, not_or] at hds
    obtain ⟨g, gs, hgroups, hcons⟩ := groupsOf_cons c ds
    rw [ih hds.2] at hgroups
    cases hgroups
    rw [hcons, if_neg (Ne.symm hds.1)]

theorem sublist_of_mem_groupsOf : ∀ {cs x : List Char}, x ∈ groupsOf cs → x.Sublist cs
  | [], _, h => by
    rw [List.mem_singleton.mp h]
  | c :: cs, x, h => by
    obtain ⟨g, gs, hgroups, hcons⟩ := groupsOf_cons c cs
    have hpart {y : List Char} (hy : y ∈ g :: gs) : y.Sublist cs := sublist_of_mem_groupsOf (hgroups ▸ hy)
    rw [hcons] at h
    split_ifs at h
    · obtain rfl | hx := List.mem_cons.mp h
      · exact List.nil_sublist _
      · exact (hpart hx).cons c
    · obtain rfl | hx := List.mem_cons.mp h
      · exact (hpart List.mem_cons_self).cons_cons c
      · exact (hpart (List.mem_cons_of_mem g hx)).cons c

/-- The numbers divided by colons are digits, and the last one stands before what follows the groups. -/
theorem mem_groupsOf {g tail : List Char} (hg : Groups g) (htail : ':' ∉ tail) : ∀ {ds : List Char},
    Digits ds → ds ≠ [] → ∀ x ∈ groupsOf (ds ++ (g ++ tail)),
      ∃ xs, Digits xs ∧ xs ≠ [] ∧ (x = xs ∨ x = xs ++ tail) := by
  have hcolon {ds : List Char} (hds : Digits ds) : ':' ∉ ds := fun hmem => absurd (hds ':' hmem) (by decide)
  have hcons {ds rest : List Char} (hds : Digits ds) (hne : ds ≠ [])
      (hrest : ∀ x ∈ groupsOf rest, ∃ xs, Digits xs ∧ xs ≠ [] ∧ (x = xs ∨ x = xs ++ tail)) :
      ∀ x ∈ groupsOf (ds ++ ':' :: rest), ∃ xs, Digits xs ∧ xs ≠ [] ∧ (x = xs ∨ x = xs ++ tail) := by
    rw [groupsOf_append (hcolon hds)]
    exact List.forall_mem_cons.mpr ⟨⟨ds, hds, hne, .inl rfl⟩, hrest⟩
  induction hg with
  | nil =>
    intro ds hds hne x hx
    rw [List.nil_append, groupsOf_single, List.mem_singleton] at hx
    · exact ⟨ds, hds, hne, .inr hx⟩
    · rw [List.mem_append]
      exact not_or.mpr ⟨hcolon hds, htail⟩
  | one ha _ ih =>
    intro ds hds hne
    exact hcons hds hne (ih (digits_cons.mpr ⟨ha, digits_nil⟩) (List.cons_ne_nil _ _))
  | two ha hb _ ih =>
    intro ds hds hne
    exact hcons hds hne (ih (digits_cons.mpr ⟨ha, digits_cons.mpr ⟨hb, digits_nil⟩⟩) (List.cons_ne_nil _ _))

/-! ## Signs -/

theorem dropSign_sublist (text : List Char) : (dropSign text).Sublist text := by
  unfold dropSign
  split
  · exact List.sublist_cons_self _ _
  · exact List.sublist_cons_self _ _
  · exact .refl _

/-- A sign is split off, and the underscores are dropped. -/
theorem exists_splitSign (h : dropSign text = c :: rest)
    (hc : c ≠ '_' ∧ c ≠ '-' ∧ c ≠ '+') :
    ∃ neg, splitSign text = .ok (neg, c :: rest.filter (· != '_')) := by
  have hfilter : (c :: rest).filter (· != '_') = c :: rest.filter (· != '_') :=
    List.filter_cons_of_pos (bne_iff_ne.mpr hc.1)
  unfold dropSign at h
  split at h
  · refine ⟨true, ?_⟩
    rw [splitSign, List.filter_cons_of_pos (by decide), h, hfilter]
    rfl
  · refine ⟨false, ?_⟩
    rw [splitSign, List.filter_cons_of_pos (by decide), h, hfilter]
    rfl
  · refine ⟨false, ?_⟩
    rw [splitSign, h, hfilter]
    split
    · rename_i heq
      cases heq
    · rename_i heq
      cases heq
      exact absurd rfl hc.2.1
    · rename_i heq
      cases heq
      exact absurd rfl hc.2.2
    · rfl

/-! ## Integers -/

/-- Reading the characters of an integer, without its sign and its underscores, ends with `P`. -/
inductive IntEnds (P : Fault → Prop) : List Char → Prop
  | empty : P .emptyNumber → IntEnds P []
  | zero : IntEnds P ['0']
  | binary {ds : List Char} : EndsWith P (fun _ => True) (numberIn 2 ds) → IntEnds P ('0' :: 'b' :: ds)
  | hexadecimal {ds : List Char} : EndsWith P (fun _ => True) (numberIn 16 ds) → IntEnds P ('0' :: 'x' :: ds)
  | octal {c : Char} {ds : List Char} : c ≠ 'b' → c ≠ 'x' →
      EndsWith P (fun _ => True) (numberIn 8 ('0' :: c :: ds)) → IntEnds P ('0' :: c :: ds)
  | decimal {d : Char} {ds : List Char} : d ≠ '0' →
      (∀ x ∈ groupsOf (d :: ds), EndsWith P (fun _ => True) (numberIn 10 x)) → IntEnds P (d :: ds)

theorem intOfText_ends (h : EndsWith P (fun q => IntEnds P q.2) (splitSign text)) :
    EndsWith P (fun _ => True) (intOfText text) := by
  refine h.bind fun ⟨neg, cs⟩ hcs => ?_
  have hsigned {x : Except Fault ℤ} (hx : EndsWith P (fun _ => True) x) :
      EndsWith P (fun _ => True)
        (do
          let n ← x
          return if neg then -n else n) := hx.bind fun _ _ => .ok trivial
  dsimp only at hcs ⊢
  cases hcs with
  | empty hempty => exact .error hempty
  | zero => exact .ok trivial
  | binary hds => exact hsigned hds
  | hexadecimal hds => exact hsigned hds
  | octal hb hx hds =>
    split <;> rename_i heq
    · cases heq
    · cases heq
    · cases heq
      exact absurd rfl hb
    · cases heq
      exact absurd rfl hx
    · exact hsigned hds
    · exact absurd rfl (heq _)
  | @decimal d ds hd hds =>
    have hzero {d : Char} {ds ds' : List Char} (heq : d :: ds = '0' :: ds') : d = '0' :=
      (List.cons_eq_cons.mp heq).1
    split <;> rename_i heq
    · cases heq
    · exact absurd (hzero heq) hd
    · exact absurd (hzero heq) hd
    · exact absurd (hzero heq) hd
    · exact absurd (hzero heq) hd
    · by_cases hcolon : (d :: ds).contains ':' = true
      · rw [if_pos hcolon]
        exact (EndsWith.mapM hds).bind fun _ _ => .ok trivial
      · rw [if_neg hcolon]
        rw [List.contains_iff_mem] at hcolon
        refine hsigned (hds _ ?_)
        rw [groupsOf_single hcolon]
        exact List.mem_singleton_self _

theorem binary_ends (hds : ∀ c ∈ ds, (c == '0' || c == '1') = true) (hP : ds = [] → P .badNumber) :
    IntEnds P ('0' :: 'b' :: ds) := by
  refine .binary (numberIn_ends (.inl rfl) (fun c hc => ?_) ?_)
  · have hbit := hds c hc
    simp only [Bool.or_eq_true, beq_iff_eq] at hbit
    obtain rfl | rfl := hbit <;> rfl
  · rintro (hnil | ⟨⟨⟩, -⟩)
    exact hP hnil

theorem hexadecimal_ends (hds : ∀ c ∈ ds, (hexDigit? c).isSome = true) (hP : ds = [] → P .badNumber) :
    IntEnds P ('0' :: 'x' :: ds) := by
  refine .hexadecimal (numberIn_ends (.inr (.inr (.inr rfl))) (fun c hc => ?_) ?_)
  · exact digitIn?_of_hexDigit? (hds c hc)
  · rintro (hnil | ⟨⟨⟩, -⟩)
    exact hP hnil

theorem octal_ends (hds : ∀ c ∈ ds, ('0' ≤ c && c ≤ '7') = true) : IntEnds P ('0' :: ds) := by
  cases ds with
  | nil => exact .zero
  | cons c ds =>
    have hne {d : Char} (hd : ('0' ≤ d && d ≤ '7') = false) : c ≠ d := by
      rintro rfl
      rw [hds c List.mem_cons_self] at hd
      cases hd
    refine .octal (hne rfl) (hne rfl) (numberIn_ends (.inr (.inl rfl)) ?_ ?_)
    · exact List.forall_mem_cons.mpr ⟨rfl, fun c hc => digitIn?_of_octal (hds c hc)⟩
    · rintro (⟨⟨⟩⟩ | ⟨⟨⟩, -⟩)

/-- A decimal number, which can be divided by colons, is one unless it has too many digits. -/
theorem decimal_ends (hd : d.isDigit = true) (hzero : d ≠ '0')
    (hend : (dropGroups false (rest.dropWhile isDigitOrGap)).2 = [])
    (hP : digitLimit < (d :: rest).countP Char.isDigit → P .badNumber) :
    IntEnds P (d :: rest.filter (· != '_')) := by
  obtain ⟨as, has, hspan⟩ := exists_span isDigitOrGap rest
  obtain ⟨g, hg, hgroups⟩ := exists_groups false (rest.dropWhile isDigitOrGap)
  rw [hend, List.append_nil] at hgroups
  have hds : Digits (d :: as.filter (· != '_')) :=
    digits_cons.mpr ⟨hd, mem_filter_gap (List.all_eq_true.mpr has)⟩
  have hfilter : d :: rest.filter (· != '_') = d :: as.filter (· != '_') ++ (g ++ []) := by
    rw [hspan, List.filter_append, hgroups, hg.filter, List.append_nil, List.cons_append]
  refine .decimal hzero fun x hx => ?_
  have hpart : x.Sublist (d :: rest) := (sublist_of_mem_groupsOf hx).trans (List.filter_sublist.cons_cons d)
  rw [hfilter] at hx
  obtain ⟨xs, hxs, hne, hx⟩ := mem_groupsOf hg List.not_mem_nil hds (List.cons_ne_nil _ _) x hx
  rw [List.append_nil, or_self] at hx
  subst hx
  refine numberIn_ends (.inr (.inr (.inl rfl))) (fun c hc => ?_) ?_
  · have hrange := isDigit_iff.mp (hxs c hc)
    exact digitIn?_of_isDigit (hxs c hc) (by omega)
  · rintro (hnil | ⟨-, hlong⟩)
    · exact absurd hnil hne
    · refine hP (Nat.lt_of_lt_of_le hlong ?_)
      rw [← List.countP_eq_length.mpr hxs]
      exact hpart.countP_le

/-- A text that has the form of an integer and writes none: a binary or hexadecimal number without digits,
or a decimal one with too many of them. -/
inductive NoInteger (text : List Char) : Prop
  | bare : (dropSign text).filter (· != '_') = ['0', 'b'] ∨ (dropSign text).filter (· != '_') = ['0', 'x'] →
      NoInteger text
  | long : digitLimit < text.countP Char.isDigit → NoInteger text

/-- **A text that has the form of an integer writes one**, with these exceptions. -/
theorem intOfText_form (h : isIntForm text = true) :
    EndsWith (fun f => f = .badNumber ∧ NoInteger text) (fun _ => True) (intOfText text) := by
  apply intOfText_ends
  unfold isIntForm at h
  split at h
  · rename_i hdrop
    obtain ⟨neg, hsplit⟩ := exists_splitSign hdrop (by decide)
    rw [hsplit]
    exact .ok .zero
  · rename_i ds hdrop
    obtain ⟨neg, hsplit⟩ := exists_splitSign hdrop (by decide)
    have hds := mem_filter_gap (p := fun c => c == '0' || c == '1') (Bool.and_eq_true_iff.mp h).2
    rw [hsplit]
    refine .ok (binary_ends hds fun hnil => ⟨rfl, .bare (.inl ?_)⟩)
    rw [hdrop]
    exact congrArg ('0' :: 'b' :: ·) hnil
  · rename_i ds hdrop
    obtain ⟨neg, hsplit⟩ := exists_splitSign hdrop (by decide)
    rw [hsplit]
    refine .ok (hexadecimal_ends (mem_filter_gap (Bool.and_eq_true_iff.mp h).2) fun hnil =>
      ⟨rfl, .bare (.inr ?_)⟩)
    rw [hdrop]
    exact congrArg ('0' :: 'x' :: ·) hnil
  · rename_i ds _ _ _ hdrop
    obtain ⟨neg, hsplit⟩ := exists_splitSign hdrop (by decide)
    rw [hsplit]
    exact .ok (octal_ends (mem_filter_gap h))
  · rename_i d rest _ _ _ hzero hdrop
    rw [Bool.and_eq_true, List.isEmpty_iff] at h
    obtain ⟨neg, hsplit⟩ := exists_splitSign hdrop (ne_signs_of_isDigit h.1)
    rw [hsplit]
    refine .ok (decimal_ends h.1 hzero h.2 fun hlong => ⟨rfl, .long ?_⟩)
    rw [← hdrop] at hlong
    exact Nat.lt_of_lt_of_le hlong (dropSign_sublist text).countP_le
  · cases h

end Gabarit.Yaml
