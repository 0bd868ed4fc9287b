import Gabarit.Text.Basic
import Mathlib.Data.List.Basic
import Mathlib.Tactic.Common

/-!
# Trimming

* `Bounded`: no blank character stands at either end;
* `trim_eq_self`, `bounded_trim`: trimming leaves such texts alone, and yields them;
* `trim_cons_blank`, `trim_append_blank`: a blank character at an end is cut off;
* `trimEnd_append`, `trimEnd_step`: what stands before other characters is kept;
* `exists_trim`: only blank characters are cut off.
-/

namespace Gabarit.Text

variable {c : Char} {cs as : List Char}

/-- No blank character stands at either end. -/
structure Bounded (cs : List Char) : Prop where
  first : ∀ c ∈ cs.head?, isBlank c = false
  last : ∀ c ∈ cs.getLast?, isBlank c = false

theorem dropWhile_eq_self {p : Char → Bool} (h : ∀ c ∈ cs.head?, p c = false) : cs.dropWhile p = cs := by
  obtain _ | ⟨c, cs⟩ := cs
  · rfl
  · rw [List.dropWhile_cons_of_neg]
    rw [h c rfl]
    exact Bool.false_ne_true

theorem head?_dropWhile_not (p : Char → Bool) (cs : List Char) : ∀ c ∈ (cs.dropWhile p).head?, p c = false := by
  intro c hc
  have := List.head?_dropWhile_not p cs
  rw [hc] at this
  exact this

theorem trimEnd_eq_self (h : ∀ c ∈ cs.getLast?, isBlank c = false) : trimEnd cs = cs := by
  rw [trimEnd, dropWhile_eq_self, List.reverse_reverse]
  rwa [List.head?_reverse]

/-- **A text without blank characters at its ends is left alone.** -/
theorem trim_eq_self (h : Bounded cs) : trim cs = cs := by
  rw [trim, trimStart, dropWhile_eq_self h.first, trimEnd_eq_self h.last]

theorem trim_cons_blank (h : isBlank c = true) (cs : List Char) : trim (c :: cs) = trim cs := by
  rw [trim, trimStart, List.dropWhile_cons_of_pos h]
  rfl

theorem trimEnd_append_blank (h : isBlank c = true) (cs : List Char) : trimEnd (cs ++ [c]) = trimEnd cs := by
  rw [trimEnd, List.reverse_append, List.reverse_singleton, List.singleton_append,
    List.dropWhile_cons_of_pos h]
  rfl

theorem trim_append_blank (h : isBlank c = true) (cs : List Char) : trim (cs ++ [c]) = trim cs := by
  rw [trim, trim, trimStart, trimStart, List.dropWhile_append]
  split_ifs with hall
  · rw [List.isEmpty_iff] at hall
    rw [hall, List.dropWhile_cons_of_pos h]
    rfl
  · exact trimEnd_append_blank h _

theorem trimEnd_append (h : ∀ c ∈ as.getLast?, isBlank c = false) (bs : List Char) :
    trimEnd (as ++ bs) = as ++ trimEnd bs := by
  rw [← List.head?_reverse] at h
  rw [trimEnd, trimEnd, List.reverse_append, List.dropWhile_append]
  split_ifs with hblank
  · rw [List.isEmpty_iff] at hblank
    rw [dropWhile_eq_self h, hblank, List.reverse_reverse, List.reverse_nil, List.append_nil]
  · rw [List.reverse_append, List.reverse_reverse]

theorem trimEnd_step (hc : isBlank c = false) (as bs : List Char) :
    trimEnd (as ++ c :: bs) = as ++ c :: trimEnd bs := by
  have hlast : ∀ d ∈ (as ++ [c]).getLast?, isBlank d = false := by
    rw [List.getLast?_concat]
    rintro _ ⟨⟩
    exact hc
  rw [List.append_cons, trimEnd_append hlast, ← List.append_cons]

theorem trimEnd_isPrefix (cs : List Char) : trimEnd cs <+: cs := by
  rw [trimEnd, ← List.reverse_suffix, List.reverse_reverse]
  exact List.dropWhile_suffix _

theorem exists_trim (cs : List Char) : ∃ left right, cs = left ++ (trim cs ++ right) ∧
    (∀ c ∈ left, isBlank c = true) ∧ ∀ c ∈ right, isBlank c = true := by
  refine ⟨cs.takeWhile isBlank, ((trimStart cs).reverse.takeWhile isBlank).reverse, ?_,
    List.all_eq_true.mp List.all_takeWhile, fun c hc => ?_⟩
  · rw [trim, trimEnd, ← List.reverse_append, List.takeWhile_append_dropWhile, List.reverse_reverse, trimStart,
      List.takeWhile_append_dropWhile]
  · exact List.all_eq_true.mp List.all_takeWhile c (List.mem_reverse.mp hc)

/-- **Trimming leaves no blank character at an end.** -/
theorem bounded_trim (cs : List Char) : Bounded (trim cs) where
  first := by
    intro c hc
    obtain ⟨rest, hrest⟩ := trimEnd_isPrefix (trimStart cs)
    refine head?_dropWhile_not isBlank cs c ?_
    rw [← trimStart, ← hrest, List.head?_append, ← trim, hc]
    rfl
  last := by
    intro c hc
    rw [trim, trimEnd, List.getLast?_reverse] at hc
    exact head?_dropWhile_not isBlank _ c hc

theorem trim_trim (cs : List Char) : trim (trim cs) = trim cs := trim_eq_self (bounded_trim cs)

end Gabarit.Text
