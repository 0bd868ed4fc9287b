import Gabarit.Number.Numeral
import Gabarit.Proofs.Number.Digits
import Gabarit.Proofs.Text.Blank

/-!
# The form of numerals

Decimal numerals without a sign, blanks and names write a floating-point number.

* `Exponent`, `Numeral`: the form of such numerals;
* `trimNumeral_eq_self`, `dropUnderscores_eq_self`: what has nothing to be taken away;
* `splitNumeral?_isSome`, **`ofText?_isSome`**: they write a number.
-/

namespace Gabarit

namespace Text

variable {cs ds rest : List Char}

/-- An exponent with its sign, or nothing. -/
inductive Exponent : List Char → Prop
  | none : Exponent []
  | some {e s : Char} {ds : List Char} : e = 'e' ∨ e = 'E' → s = '-' ∨ s = '+' → Digits ds → ds ≠ [] →
      Exponent (e :: s :: ds)

/-- A decimal numeral without a sign: digits, of which some may stand after a point, and an exponent. -/
inductive Numeral : List Char → Prop
  | whole {ds exp : List Char} : Digits ds → ds ≠ [] → Exponent exp → Numeral (ds ++ exp)
  | point {ds fs exp : List Char} : Digits ds → Digits fs → ds ++ fs ≠ [] → Exponent exp →
      Numeral (ds ++ '.' :: (fs ++ exp))

/-- The characters of numerals. -/
def isNumeralChar (c : Char) : Bool := c.isDigit || ['.', 'e', 'E', '-', '+'].contains c

theorem Digits.isNumeralChar (h : Digits ds) : ∀ c ∈ ds, isNumeralChar c = true :=
  fun c hc => by rw [Text.isNumeralChar, h c hc, Bool.true_or]

theorem Exponent.isNumeralChar (h : Exponent cs) : ∀ c ∈ cs, isNumeralChar c = true := by
  cases h with
  | none => exact fun c hc => absurd hc List.not_mem_nil
  | some he hs hds =>
    refine List.forall_mem_cons.mpr ⟨?_, List.forall_mem_cons.mpr ⟨?_, hds.isNumeralChar⟩⟩
    · obtain rfl | rfl := he <;> rfl
    · obtain rfl | rfl := hs <;> rfl

theorem Numeral.isNumeralChar (h : Numeral cs) : ∀ c ∈ cs, isNumeralChar c = true := by
  cases h with
  | whole hds _ hexp => exact List.forall_mem_append.mpr ⟨hds.isNumeralChar, hexp.isNumeralChar⟩
  | point hds hfs _ hexp =>
    refine List.forall_mem_append.mpr ⟨hds.isNumeralChar, List.forall_mem_cons.mpr ⟨rfl, ?_⟩⟩
    exact List.forall_mem_append.mpr ⟨hfs.isNumeralChar, hexp.isNumeralChar⟩

theorem Numeral.head_ne (h : Numeral cs) : ∀ c ∈ cs.head?, c ≠ '-' ∧ c ≠ '+' := by
  have hdigits {ds rest : List Char} (hds : Digits ds) (hne : ds ≠ []) :
      ∀ c ∈ (ds ++ rest).head?, c ≠ '-' ∧ c ≠ '+' := by
    obtain ⟨d, ds, rfl⟩ := List.exists_cons_of_ne_nil hne
    rintro c ⟨⟩
    have hd := hds d List.mem_cons_self
    constructor <;> (rintro rfl; cases hd)
  cases h with
  | whole hds hne => exact hdigits hds hne
  | @point ds _ _ hds =>
    cases ds with
    | nil =>
      rintro c ⟨⟩
      decide
    | cons d ds => exact hdigits hds (List.cons_ne_nil d ds)

theorem isNumeralChar_plain {c : Char} (h : isNumeralChar c = true) :
    c.toNat < 128 ∧ isNumeralBlank c = false ∧ c ≠ '_' := by
  obtain hdigit | hmark := Bool.or_eq_true_iff.mp h
  · have hc := isDigit_iff.mp hdigit
    refine ⟨by omega, ?_, ?_⟩
    · have hspace : c ≠ ' ' := by
        rintro rfl
        cases hdigit
      simp only [isNumeralBlank, Bool.or_eq_false_iff, beq_eq_false_iff_ne, Bool.and_eq_false_iff,
        decide_eq_false_iff_not]
      exact ⟨hspace, .inr (by omega)⟩
    · rintro rfl
      cases hdigit
  · have hmem : c ∈ ['.', 'e', 'E', '-', '+'] := List.contains_iff_mem.mp hmark
    simp only [List.mem_cons, List.not_mem_nil, or_false] at hmem
    obtain rfl | rfl | rfl | rfl | rfl := hmem <;> decide

/-- ASCII characters that are no blanks are all that is left of them. -/
theorem trimNumeral_eq_self (h : ∀ c ∈ cs, c.toNat < 128 ∧ isNumeralBlank c = false) :
    trimNumeral (cs.map plainChar) = cs := by
  have hplain : cs.map plainChar = cs := by
    conv_rhs => rw [← List.map_id cs]
    exact List.map_congr_left fun c hc => if_pos (h c hc).1
  have hhead {as : List Char} (has : ∀ c ∈ as, c ∈ cs) : as.dropWhile isNumeralBlank = as :=
    dropWhile_eq_self fun c hc => (h c (has c (List.mem_of_mem_head? hc))).2
  rw [hplain, trimNumeral, hhead fun _ => id, hhead fun _ => List.mem_reverse.mp, List.reverse_reverse]

theorem dropUnderscores_eq_self (h : '_' ∉ cs) (before : Bool) : dropUnderscores before cs = some cs := by
  induction cs generalizing before with
  | nil => rfl
  | cons c cs ih =>
    rw [List.mem_cons, not_or] at h
    rw [dropUnderscores, if_neg (Ne.symm h.1), ih h.2]
    rfl

end Text

namespace Binary64

open Text

variable {cs ds rest : List Char}

theorem span_digits (hds : Digits ds) (hrest : ∀ c ∈ rest.head?, c.isDigit = false) :
    (ds ++ rest).takeWhile (fun c => (asciiDigit? c).isSome) = ds ∧
    (ds ++ rest).dropWhile (fun c => (asciiDigit? c).isSome) = rest := by
  have hall : ∀ c ∈ ds, (asciiDigit? c).isSome = true := by
    intro c hc
    rw [asciiDigit?_of_isDigit (hds c hc)]
    rfl
  have hstop : ∀ c ∈ rest.head?, (asciiDigit? c).isSome = false := by
    intro c hc
    rw [asciiDigit?_eq_none (hrest c hc)]
    rfl
  rw [List.takeWhile_append_of_pos hall, List.dropWhile_append_of_pos hall, dropWhile_eq_self hstop]
  refine ⟨?_, rfl⟩
  cases rest with
  | nil => exact List.append_nil ds
  | cons c rest =>
    rw [List.takeWhile_cons_of_neg, List.append_nil]
    rw [hstop c rfl]
    exact Bool.false_ne_true

theorem exponent_head (h : Exponent cs) : ∀ c ∈ cs.head?, c.isDigit = false ∧ c ≠ '.' := by
  cases h with
  | none =>
    rintro c ⟨⟩
  | some he =>
    rintro c ⟨⟩
    obtain rfl | rfl := he <;> decide

theorem all_digits (hds : Digits ds) : ds.all (fun c => (asciiDigit? c).isSome) = true := by
  rw [List.all_eq_true]
  intro c hc
  rw [asciiDigit?_of_isDigit (hds c hc)]
  rfl

theorem splitNumeral?_isSome (h : Numeral cs) : (splitNumeral? cs).isSome = true := by
  cases h with
  | whole hds hne hexp =>
    obtain ⟨htake, hdrop⟩ := span_digits hds fun c hc => (exponent_head hexp c hc).1
    unfold splitNumeral?
    dsimp only
    rw [htake, hdrop]
    cases hexp with
    | none => simp [hne]
    | some he hs hes hes' =>
      obtain rfl | rfl := he <;> obtain rfl | rfl := hs <;> simp [hne, hes', all_digits hes]
  | @point ds fs exp hds hfs hne hexp =>
    have hpoint : ∀ c ∈ ('.' :: (fs ++ exp)).head?, c.isDigit = false := by
      rintro c ⟨⟩
      rfl
    obtain ⟨htake, hdrop⟩ := span_digits hds hpoint
    obtain ⟨htake', hdrop'⟩ := span_digits hfs fun c hc => (exponent_head hexp c hc).1
    unfold splitNumeral?
    dsimp only
    rw [htake, hdrop]
    simp only [htake', hdrop', List.isEmpty_eq_false_iff.mpr hne]
    cases hexp with
    | none => simp
    | some he hs hes hes' =>
      obtain rfl | rfl := he <;> obtain rfl | rfl := hs <;> simp [hes', all_digits hes]

/-- **A numeral writes a number.** -/
theorem ofText?_isSome (h : Numeral cs) : (ofText? cs).isSome = true := by
  have hplain (c : Char) (hc : c ∈ cs) := isNumeralChar_plain (h.isNumeralChar c hc)
  have hgap : '_' ∉ cs := fun hmem => (hplain '_' hmem).2.2 rfl
  have hnumber (neg : Bool) : ((named? neg cs).or (ofNumeral? neg cs)).isSome = true := by
    rw [Option.isSome_or, ofNumeral?, Option.isSome_map, splitNumeral?_isSome h, Bool.or_true]
  unfold ofText?
  rw [trimNumeral_eq_self fun c hc => ⟨(hplain c hc).1, (hplain c hc).2.1⟩, dropUnderscores_eq_self hgap]
  change Option.isSome (Option.bind (some cs) _) = true
  dsimp only [Option.bind]
  split
  · exact absurd rfl (h.head_ne '-' rfl).1
  · exact absurd rfl (h.head_ne '+' rfl).2
  · exact hnumber false

end Binary64

end Gabarit
