import Gabarit.Proofs.Yaml.Integer

/-!
# Floating-point numbers of plain texts

A plain text that has the form of a floating-point number writes one.

* `FloatEnds`, `floatOfText_ends`: how such a number is read;
* `FloatForm`, `isFloatForm_cases`: the forms, which are names, digits after a point, and digits with a point
  after groups of them;
* `lowerFrom_append_small`, `exists_lowerFrom`: numbers in lower case;
* **`floatOfText_form`**: the texts of these forms.
-/

namespace Gabarit.Yaml

open Text

variable {text cs ds rest : List Char} {c d : Char} {P : Fault → Prop}

/-! ## Forms -/

/-- Reading the parts of a floating-point number ends with `P`. -/
def FloatEnds (P : Fault → Prop) (cs : List Char) : Prop :=
  cs = ".inf".toList ∨ cs = ".nan".toList ∨
    ∀ x ∈ groupsOf cs, P .badNumber ∨ (Binary64.ofText? x).isSome = true

theorem floatOfText_ends
    (h : EndsWith P (fun q => FloatEnds P q.2) (splitSign (lower (String.ofList text)).toList)) :
    EndsWith P (fun _ => True) (floatOfText text) := by
  refine h.bind fun ⟨neg, cs⟩ hcs => ?_
  have hsigned {x : Except Fault Binary64} (hx : EndsWith P (fun _ => True) x) :
      EndsWith P (fun _ => True)
        (do
          let x ← x
          return if neg then x.negate else x) := hx.bind fun _ _ => .ok trivial
  dsimp only at hcs ⊢
  by_cases hinf : cs = ".inf".toList
  · rw [if_pos hinf]
    exact .ok trivial
  by_cases hnan : cs = ".nan".toList
  · rw [if_neg hinf, if_pos hnan]
    exact .ok trivial
  have hparts := (hcs.resolve_left hinf).resolve_left hnan
  rw [if_neg hinf, if_neg hnan]
  by_cases hcolon : cs.contains ':' = true
  · rw [if_pos hcolon]
    refine EndsWith.bind (EndsWith.mapM fun x hx => ?_) fun _ _ => .ok trivial
    split
    · exact .ok trivial
    · rename_i hnone
      exact .error ((hparts x hx).resolve_right (by simp [hnone]))
  · rw [if_neg hcolon]
    rw [List.contains_iff_mem] at hcolon
    refine hsigned ?_
    split
    · exact .ok trivial
    · rename_i hnone
      refine .error ((hparts cs ?_).resolve_right (by simp [hnone]))
      rw [groupsOf_single hcolon]
      exact List.mem_singleton_self _

theorem exponent_of_isExponent {exp : List Char} (h : isExponent exp = true) : Exponent exp := by
  unfold isExponent at h
  split at h
  · exact .none
  · simp only [Bool.and_eq_true, Bool.or_eq_true, beq_iff_eq, Bool.not_eq_true', List.isEmpty_eq_false_iff,
      List.all_eq_true] at h
    obtain ⟨⟨⟨he, hs⟩, hne⟩, hds⟩ := h
    exact .some he hs hds hne
  · cases h

theorem exists_fraction {grouped : Bool} (h : (if grouped then (rest.dropWhile isDigitOrGap).isEmpty
    else isExponent (rest.dropWhile isDigitOrGap)) = true) :
    ∃ fs exp, rest = fs ++ exp ∧ (∀ c ∈ fs, isDigitOrGap c = true) ∧ Exponent exp := by
  obtain ⟨fs, hfs, hrest⟩ := exists_span isDigitOrGap rest
  refine ⟨fs, _, hrest, hfs, ?_⟩
  split_ifs at h
  · rw [List.isEmpty_iff.mp h]
    exact .none
  · exact exponent_of_isExponent h

/-- The form of a floating-point number without a name, after its sign. -/
inductive FloatForm : List Char → Prop
  | point {d : Char} {ds exp : List Char} : d.isDigit = true → (∀ c ∈ ds, isDigitOrGap c = true) →
      Exponent exp → FloatForm ('.' :: d :: ds ++ exp)
  | digits {d : Char} {ds g fs exp : List Char} : d.isDigit = true → (∀ c ∈ ds, isDigitOrGap c = true) →
      Groups g → (∀ c ∈ fs, isDigitOrGap c = true) → Exponent exp →
      FloatForm (d :: (ds ++ (g ++ '.' :: (fs ++ exp))))

theorem isFloatForm_cases (h : isFloatForm text = true) :
    [".inf", ".Inf", ".INF"].contains (String.ofList (dropSign text)) = true ∨
    [".nan", ".NaN", ".NAN"].contains (String.ofList text) = true ∨ FloatForm (dropSign text) := by
  unfold isFloatForm at h
  dsimp only at h
  rw [Bool.or_eq_true, Bool.or_eq_true] at h
  obtain (hinf | hnan) | h := h
  · exact .inl hinf
  · exact .inr (.inl hnan)
  refine .inr (.inr ?_)
  split at h
  · rename_i d rest
    rw [Bool.and_eq_true] at h
    obtain ⟨fs, exp, rfl, hfs, hexp⟩ := exists_fraction h.2
    exact .point h.1 hfs hexp
  · split at h
    · rename_i d rest hdrop
      rw [Bool.and_eq_true] at h
      obtain ⟨hd, h⟩ := h
      obtain ⟨ds, hds, hspan⟩ := exists_span isDigitOrGap rest
      obtain ⟨g, hg, hgroups⟩ := exists_groups false (rest.dropWhile isDigitOrGap)
      split at h
      · rename_i grouped tail heq
        obtain ⟨fs, exp, rfl, hfs, hexp⟩ := exists_fraction h
        rw [heq] at hgroups
        rw [hdrop, hspan, hgroups]
        exact .digits hd hds hg hfs hexp
      · cases h
    · cases h

/-! ## Lower case -/

theorem lowerFrom_append_small (h : ∀ c ∈ cs, c.toNat < 65 ∨ c = '_') (before rest : List Char) :
    lowerFrom before (cs ++ rest) = cs ++ lowerFrom (cs.reverse ++ before) rest := by
  induction cs generalizing before with
  | nil => rfl
  | cons c cs ih =>
    obtain ⟨hc, hcs⟩ := List.forall_mem_cons.mp h
    have hlower : lowerIn before c (cs ++ rest) = [c] := by
      obtain hsmall | rfl := hc
      · have hsigma : c ≠ 'Σ' := by
          rintro rfl
          exact absurd hsmall (by decide)
        rw [lowerIn, if_neg hsigma, lowerChar, if_pos (by omega), if_neg (by omega)]
      · rfl
    rw [List.cons_append, lowerFrom, hlower, ih hcs]
    simp

theorem lowerFrom_small (h : ∀ c ∈ cs, c.toNat < 65 ∨ c = '_') (before : List Char) :
    lowerFrom before cs = cs := by
  have happend := lowerFrom_append_small h before []
  rw [List.append_nil] at happend
  rw [happend]
  exact List.append_nil cs

theorem small_of_gap (h : isDigitOrGap c = true) : c.toNat < 65 ∨ c = '_' := by
  obtain hdigit | hgap := Bool.or_eq_true_iff.mp h
  · have hc := isDigit_iff.mp hdigit
    exact .inl (by omega)
  · exact .inr (eq_of_beq hgap)

theorem gap_of_isDigit (h : c.isDigit = true) : isDigitOrGap c = true := by
  rw [isDigitOrGap, h, Bool.true_or]

theorem Groups.small {g : List Char} (h : Groups g) : ∀ c ∈ g, c.toNat < 65 ∨ c = '_' := by
  intro c hc
  obtain rfl | hdigit := h.mem c hc
  · exact .inl (by decide)
  · exact small_of_gap (gap_of_isDigit hdigit)

theorem exists_lowerFrom {exp : List Char} (h : Exponent exp) :
    ∃ exp', Exponent exp' ∧ ∀ before, lowerFrom before exp = exp' := by
  cases h with
  | none => exact ⟨[], .none, fun _ => rfl⟩
  | @some e s ds he hs hds hne =>
    refine ⟨'e' :: s :: ds, .some (.inl rfl) hs hds hne, fun before => ?_⟩
    have hsmall : ∀ c ∈ s :: ds, c.toNat < 65 ∨ c = '_' := by
      refine List.forall_mem_cons.mpr ⟨.inl ?_, fun c hc => small_of_gap (gap_of_isDigit (hds c hc))⟩
      obtain rfl | rfl := hs <;> decide
    have hlower : lowerIn before e (s :: ds) = ['e'] := by
      obtain rfl | rfl := he <;> rfl
    rw [lowerFrom, hlower, lowerFrom_small hsmall]
    rfl

/-- A text writes a floating-point number if it does so in lower case and without its sign. -/
theorem floatOfText_lower {body t : List Char} (h : dropSign text = body)
    (hlower : ∀ before, lowerFrom before body = c :: t) (hc : c ≠ '_' ∧ c ≠ '-' ∧ c ≠ '+')
    (hcs : FloatEnds (fun _ => False) (c :: t.filter (· != '_'))) :
    EndsWith (fun _ => False) (fun _ => True) (floatOfText text) := by
  have hdrop : dropSign (lower (String.ofList text)).toList = c :: t := by
    rw [lower, String.toList_ofList, String.toList_ofList]
    unfold dropSign at h
    split at h
    · subst h
      exact hlower _
    · subst h
      exact hlower _
    · rw [h, hlower]
      unfold dropSign
      split <;> rename_i heq
      · exact absurd (List.cons_eq_cons.mp heq).1 hc.2.1
      · exact absurd (List.cons_eq_cons.mp heq).1 hc.2.2
      · rfl
  obtain ⟨neg, hsplit⟩ := exists_splitSign hdrop hc
  apply floatOfText_ends
  rw [hsplit]
  exact .ok hcs

theorem filter_exponent {exp : List Char} (h : Exponent exp) : exp.filter (· != '_') = exp :=
  List.filter_eq_self.mpr fun c hc => bne_iff_ne.mpr (isNumeralChar_plain (h.isNumeralChar c hc)).2.2

theorem not_mem_of_isNumeralChar (h : ∀ c ∈ cs, isNumeralChar c = true) : ':' ∉ cs :=
  fun hmem => absurd (h ':' hmem) (by decide)

/-! ## Numbers -/

theorem floatOfText_point {exp : List Char} (hdrop : dropSign text = '.' :: d :: ds ++ exp)
    (hd : d.isDigit = true) (hds : ∀ c ∈ ds, isDigitOrGap c = true) (hexp : Exponent exp) :
    EndsWith (fun _ => False) (fun _ => True) (floatOfText text) := by
  obtain ⟨exp', hexp', hlower⟩ := exists_lowerFrom hexp
  have hsmall : ∀ c ∈ '.' :: d :: ds, c.toNat < 65 ∨ c = '_' := by
    refine List.forall_mem_cons.mpr ⟨.inl (by decide), ?_⟩
    exact List.forall_mem_cons.mpr ⟨small_of_gap (gap_of_isDigit hd), fun c hc => small_of_gap (hds c hc)⟩
  have hdigits : Digits (d :: ds.filter (· != '_')) :=
    digits_cons.mpr ⟨hd, mem_filter_gap (List.all_eq_true.mpr hds)⟩
  have hnumeral : Numeral ('.' :: (d :: ds.filter (· != '_') ++ exp')) :=
    .point digits_nil hdigits (List.cons_ne_nil _ _) hexp'
  refine floatOfText_lower (c := '.') (t := d :: ds ++ exp') hdrop (fun before => ?_) (by decide) ?_
  · rw [lowerFrom_append_small hsmall, hlower]
    rfl
  · have hfilter : (d :: ds ++ exp').filter (· != '_') = d :: ds.filter (· != '_') ++ exp' := by
      simp [filter_exponent hexp', ne_of_isDigit hd (d := '_') rfl]
    rw [hfilter]
    refine .inr (.inr fun x hx => .inr ?_)
    rw [groupsOf_single (not_mem_of_isNumeralChar hnumeral.isNumeralChar), List.mem_singleton] at hx
    rw [hx]
    exact Binary64.ofText?_isSome hnumeral

/-- A text that starts with a digit and has a point, writes a floating-point number. -/
theorem floatOfText_digits {g fs exp : List Char}
    (hdrop : dropSign text = d :: (ds ++ (g ++ '.' :: (fs ++ exp)))) (hd : d.isDigit = true)
    (hds : ∀ c ∈ ds, isDigitOrGap c = true) (hg : Groups g)
    (hfs : ∀ c ∈ fs, isDigitOrGap c = true) (hexp : Exponent exp) :
    EndsWith (fun _ => False) (fun _ => True) (floatOfText text) := by
  obtain ⟨exp', hexp', hlower⟩ := exists_lowerFrom hexp
  have hsmall : ∀ c ∈ d :: (ds ++ (g ++ '.' :: fs)), c.toNat < 65 ∨ c = '_' := by
    refine List.forall_mem_cons.mpr ⟨small_of_gap (gap_of_isDigit hd), ?_⟩
    refine List.forall_mem_append.mpr ⟨fun c hc => small_of_gap (hds c hc), ?_⟩
    refine List.forall_mem_append.mpr ⟨hg.small, ?_⟩
    exact List.forall_mem_cons.mpr ⟨.inl (by decide), fun c hc => small_of_gap (hfs c hc)⟩
  have hdigits : Digits (d :: ds.filter (· != '_')) :=
    digits_cons.mpr ⟨hd, mem_filter_gap (List.all_eq_true.mpr hds)⟩
  have hfraction : Digits (fs.filter (· != '_')) := mem_filter_gap (List.all_eq_true.mpr hfs)
  have htail : ':' ∉ '.' :: (fs.filter (· != '_') ++ exp') := by
    refine not_mem_of_isNumeralChar (List.forall_mem_cons.mpr ⟨rfl, ?_⟩)
    exact List.forall_mem_append.mpr ⟨hfraction.isNumeralChar, hexp'.isNumeralChar⟩
  refine floatOfText_lower (t := ds ++ (g ++ '.' :: (fs ++ exp'))) hdrop (fun before => ?_)
    (ne_signs_of_isDigit hd) ?_
  · have hlowered := lowerFrom_append_small hsmall before exp
    rw [hlower] at hlowered
    simpa using hlowered
  · have hfilter : d :: (ds ++ (g ++ '.' :: (fs ++ exp'))).filter (· != '_') =
        d :: ds.filter (· != '_') ++ (g ++ '.' :: (fs.filter (· != '_') ++ exp')) := by
      simp [hg.filter, filter_exponent hexp']
    rw [hfilter]
    refine .inr (.inr fun x hx => .inr ?_)
    obtain ⟨xs, hxs, hne, rfl | rfl⟩ := mem_groupsOf hg htail hdigits (List.cons_ne_nil _ _) x hx
    · have hwhole := Numeral.whole hxs hne .none
      rw [List.append_nil] at hwhole
      exact Binary64.ofText?_isSome hwhole
    · exact Binary64.ofText?_isSome (.point hxs hfraction (List.append_ne_nil_of_left_ne_nil hne _) hexp')

/-- **A text that has the form of a floating-point number writes one.** -/
theorem floatOfText_form (h : isFloatForm text = true) :
    EndsWith (fun _ => False) (fun _ => True) (floatOfText text) := by
  have hname {names : List String} {cs : List Char} (h : names.contains (String.ofList cs) = true) :
      ∃ s ∈ names, cs = s.toList := ⟨_, List.contains_iff_mem.mp h, String.toList_ofList.symm⟩
  obtain hinf | hnan | hform := isFloatForm_cases h
  · obtain ⟨s, hs, hdrop⟩ := hname hinf
    simp only [List.mem_cons, List.not_mem_nil, or_false] at hs
    obtain rfl | rfl | rfl := hs <;>
      exact floatOfText_lower (c := '.') (t := ['i', 'n', 'f']) hdrop (fun _ => rfl) (by decide) (.inl rfl)
  · obtain ⟨s, hs, rfl⟩ := hname hnan
    simp only [List.mem_cons, List.not_mem_nil, or_false] at hs
    obtain rfl | rfl | rfl := hs <;>
      exact floatOfText_lower (c := '.') (t := ['n', 'a', 'n']) rfl (fun _ => rfl) (by decide)
        (.inr (.inl rfl))
  · generalize hdrop : dropSign text = body at hform
    cases hform with
    | point hd hds hexp => exact floatOfText_point hdrop hd hds hexp
    | digits hd hds hg hfs hexp => exact floatOfText_digits hdrop hd hds hg hfs hexp

end Gabarit.Yaml
