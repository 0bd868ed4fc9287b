import Gabarit.Text.Basic
import Gabarit.Text.Identifier
import Mathlib.Tactic.Common

/-!
# ASCII names

* `AsciiName`: letters, digits and underscores, with no digit in front;
* `AsciiName.span`: a name ends before a character of another kind;
* `AsciiName.isIdentifier`, `AsciiName.normalize`: it is an identifier in its normal form.
-/

namespace Gabarit.Text

/-- What holds of all characters of a list is decided one by one, and not for all characters there are. -/
instance (priority := high) decidableForallMem (cs : List Char) (p : Char → Prop) [DecidablePred p] :
    Decidable (∀ c ∈ cs, p c) := List.decidableBAll p cs

/-- Letters, digits and underscores of ASCII, with no digit in front. -/
def AsciiName : List Char → Prop
  | [] => False
  | c :: cs => isAsciiStart c = true ∧ ∀ d ∈ cs, isAsciiContinue d = true

instance : DecidablePred AsciiName
  | [] => inferInstanceAs (Decidable False)
  | c :: cs => inferInstanceAs (Decidable (isAsciiStart c = true ∧ ∀ d ∈ cs, isAsciiContinue d = true))

theorem isAsciiContinue_of_start {c : Char} (h : isAsciiStart c = true) : isAsciiContinue c = true := by
  rw [isAsciiContinue, h, Bool.true_or]

/-- The characters of names lie among the letters, the digits and the underscore. -/
theorem isAsciiContinue_iff {c : Char} : isAsciiContinue c = true ↔
    65 ≤ c.toNat ∧ c.toNat ≤ 90 ∨ 97 ≤ c.toNat ∧ c.toNat ≤ 122 ∨ c.toNat = 95 ∨
      48 ≤ c.toNat ∧ c.toNat ≤ 57 := by
  simp only [isAsciiContinue, isAsciiStart, Bool.or_eq_true, Bool.and_eq_true, decide_eq_true_eq,
    beq_iff_eq]
  omega

theorem toNat_lt_of_isAsciiContinue {c : Char} (h : isAsciiContinue c = true) : c.toNat < 128 := by
  have := isAsciiContinue_iff.mp h
  omega

theorem isBlank_of_isAsciiContinue {c : Char} (h : isAsciiContinue c = true) : isBlank c = false := by
  have := isAsciiContinue_iff.mp h
  simp only [isBlank, Bool.or_eq_false_iff, Bool.and_eq_false_iff, decide_eq_false_iff_not, beq_eq_false_iff_ne]
  omega

theorem normalize_of_ascii {cs : List Char} (h : ∀ c ∈ cs, c.toNat < 128) :
    normalize (String.ofList cs) = String.ofList cs := by
  rw [normalize, if_pos]
  rw [String.toList_ofList, List.all_eq_true]
  exact fun c hc => decide_eq_true (h c hc)

namespace AsciiName

variable {cs rest : List Char}

theorem exists_cons (h : AsciiName cs) : ∃ c ds, cs = c :: ds ∧ isAsciiStart c = true := by
  obtain _ | ⟨c, ds⟩ := cs
  · exact h.elim
  · exact ⟨c, ds, rfl, h.1⟩

theorem isAsciiContinue (h : AsciiName cs) : ∀ c ∈ cs, isAsciiContinue c = true := by
  obtain _ | ⟨c, ds⟩ := cs
  · exact h.elim
  · exact List.forall_mem_cons.mpr ⟨isAsciiContinue_of_start h.1, h.2⟩

theorem not_mem (h : AsciiName cs) {c : Char} (hc : Text.isAsciiContinue c = false) : c ∉ cs := by
  intro hmem
  rw [h.isAsciiContinue c hmem] at hc
  cases hc

/-- **A name ends before a character of another kind.** -/
theorem span (h : AsciiName cs) (hrest : ∀ c ∈ rest.head?, Text.isAsciiContinue c = false) :
    (cs ++ rest).takeWhile Text.isAsciiContinue = cs ∧
      (cs ++ rest).dropWhile Text.isAsciiContinue = rest := by
  have hstop : rest.takeWhile Text.isAsciiContinue = [] ∧
      rest.dropWhile Text.isAsciiContinue = rest := by
    obtain _ | ⟨c, rest⟩ := rest
    · exact ⟨rfl, rfl⟩
    · have hc : Text.isAsciiContinue c = false := hrest c rfl
      simp [hc]
  rw [List.takeWhile_append_of_pos h.isAsciiContinue, List.dropWhile_append_of_pos h.isAsciiContinue,
    hstop.1, hstop.2, List.append_nil]
  exact ⟨rfl, rfl⟩

theorem isIdentifier (h : AsciiName cs) : isIdentifier cs = true := by
  obtain _ | ⟨c, ds⟩ := cs
  · exact h.elim
  · have hstart := toNat_lt_of_isAsciiContinue (isAsciiContinue_of_start h.1)
    rw [Text.isIdentifier, isStart, if_pos hstart, h.1, Bool.true_and, List.all_eq_true]
    intro d hd
    rw [isContinue, if_pos (toNat_lt_of_isAsciiContinue (h.2 d hd))]
    exact h.2 d hd

theorem normalize (h : AsciiName cs) : normalize (String.ofList cs) = String.ofList cs :=
  normalize_of_ascii fun c hc => toNat_lt_of_isAsciiContinue (h.isAsciiContinue c hc)

end AsciiName

end Gabarit.Text
