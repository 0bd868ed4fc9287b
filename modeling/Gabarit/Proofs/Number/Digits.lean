import Gabarit.Text.Basic
import Mathlib.Tactic.Common
import Mathlib.Tactic.Ring

/-!
# Digits and numerals

* `Digits`: characters that are ASCII digits;
* `numeralValue_append`, `numeralValue_zeros`: the value of a numeral by its parts;
* `numeralValue_numeralChars`: a number is the value of its numeral;
* `numeralChars_head`: the numeral of a positive number does not start with a zero;
* `length_numeralChars_le`: the length of a numeral.
-/

namespace Gabarit.Text

/-- All characters are ASCII digits. -/
def Digits (cs : List Char) : Prop := ∀ c ∈ cs, c.isDigit = true

theorem isDigit_iff {c : Char} : c.isDigit = true ↔ 48 ≤ c.toNat ∧ c.toNat ≤ 57 := by
  rw [Char.isDigit, Bool.and_eq_true, decide_eq_true_iff, decide_eq_true_iff, ge_iff_le,
    UInt32.le_iff_toNat_le, UInt32.le_iff_toNat_le]
  rfl

theorem asciiDigit?_of_isDigit {c : Char} (h : c.isDigit = true) :
    asciiDigit? c = some (c.toNat - 48) := by
  rw [asciiDigit?, if_pos (isDigit_iff.mp h)]

theorem asciiDigit?_eq_none {c : Char} (h : c.isDigit = false) : asciiDigit? c = none := by
  rw [asciiDigit?, if_neg]
  rw [← isDigit_iff, h]
  exact Bool.false_ne_true

theorem digits_nil : Digits [] := by
  simp [Digits]

theorem digits_cons {c : Char} {cs : List Char} :
    Digits (c :: cs) ↔ c.isDigit = true ∧ Digits cs := by
  simp [Digits]

theorem digits_append {as bs : List Char} : Digits (as ++ bs) ↔ Digits as ∧ Digits bs := by
  simp [Digits, or_imp, forall_and]

theorem digits_zeros (n : ℕ) : Digits (List.replicate n '0') := by
  intro c hc
  rw [List.eq_of_mem_replicate hc]
  rfl

theorem digits_numeralChars (n : ℕ) : Digits (numeralChars n) :=
  fun _ hc => Nat.isDigit_of_mem_toDigits (by decide) (by decide) hc

theorem digits_zeroPadded (width n : ℕ) : Digits (zeroPadded width n) :=
  digits_append.mpr ⟨digits_zeros _, digits_numeralChars n⟩

/-! ## Values -/

theorem foldl_numeral (cs : List Char) (v : ℕ) :
    cs.foldl (fun v c => 10 * v + (digitValue? c).getD 0) v =
      v * 10 ^ cs.length + numeralValue cs := by
  induction cs generalizing v with
  | nil => simp [numeralValue]
  | cons c cs ih =>
    rw [numeralValue, List.foldl_cons, List.foldl_cons, ih, ih (10 * 0 + _), List.length_cons]
    ring

theorem numeralValue_nil : numeralValue [] = 0 := rfl

theorem numeralValue_cons (c : Char) (cs : List Char) :
    numeralValue (c :: cs) = (digitValue? c).getD 0 * 10 ^ cs.length + numeralValue cs := by
  rw [numeralValue, List.foldl_cons, foldl_numeral]
  simp

theorem numeralValue_append (as bs : List Char) :
    numeralValue (as ++ bs) = numeralValue as * 10 ^ bs.length + numeralValue bs := by
  rw [numeralValue, List.foldl_append, foldl_numeral]
  rfl

theorem numeralValue_zeros (n : ℕ) : numeralValue (List.replicate n '0') = 0 := by
  induction n with
  | zero => rfl
  | succ n ih =>
    rw [List.replicate_succ, numeralValue_cons, ih]
    simp [digitValue?, asciiDigit?]

/-- Zeros before a numeral leave its value alone. -/
theorem numeralValue_zeros_append (n : ℕ) (cs : List Char) :
    numeralValue (List.replicate n '0' ++ cs) = numeralValue cs := by
  rw [numeralValue_append, numeralValue_zeros, Nat.zero_mul, Nat.zero_add]

theorem digitValue?_of_isDigit {c : Char} (h : c.isDigit = true) :
    digitValue? c = some (c.toNat - 48) := by
  have hd := isDigit_iff.mp h
  rw [digitValue?, if_pos (by omega), asciiDigit?_of_isDigit h]

theorem numeralValue_eq_ofDigitChars {cs : List Char} (h : Digits cs) :
    numeralValue cs = Nat.ofDigitChars 10 cs 0 := by
  suffices hfold : ∀ v, cs.foldl (fun v c => 10 * v + (digitValue? c).getD 0) v =
      Nat.ofDigitChars 10 cs v from hfold 0
  intro v
  induction cs generalizing v with
  | nil => rw [Nat.ofDigitChars_nil, List.foldl_nil]
  | cons c cs ih =>
    obtain ⟨hc, hcs⟩ := digits_cons.mp h
    rw [List.foldl_cons, ih hcs, Nat.ofDigitChars_cons, digitValue?_of_isDigit hc]
    rfl

/-- **A number is the value of its numeral.** -/
theorem numeralValue_numeralChars (n : ℕ) : numeralValue (numeralChars n) = n := by
  rw [numeralValue_eq_ofDigitChars (digits_numeralChars n), numeralChars,
    Nat.ofDigitChars_ten_toDigits]

theorem numeralValue_zeroPadded (width n : ℕ) : numeralValue (zeroPadded width n) = n := by
  rw [zeroPadded, numeralValue_zeros_append, numeralValue_numeralChars]

/-- A digit of any script is at most nine. -/
theorem digitValue?_le (c : Char) : (digitValue? c).getD 0 ≤ 9 := by
  unfold digitValue?
  split_ifs
  · unfold asciiDigit?
    split_ifs with h
    · rw [Option.getD_some]
      omega
    · exact Nat.zero_le 9
  · cases h : foreignZeros.find? fun z => z ≤ c.toNat && c.toNat ≤ z + 9 with
    | none => exact Nat.zero_le 9
    | some z =>
      have hz := List.find?_some h
      simp only [Bool.and_eq_true, decide_eq_true_eq] at hz
      rw [Option.map_some, Option.getD_some]
      omega

theorem numeralValue_lt (cs : List Char) : numeralValue cs < 10 ^ cs.length := by
  induction cs with
  | nil => simp [numeralValue_nil]
  | cons c cs ih =>
    have hle : (digitValue? c).getD 0 * 10 ^ cs.length ≤ 9 * 10 ^ cs.length :=
      Nat.mul_le_mul_right _ (digitValue?_le c)
    rw [numeralValue_cons, List.length_cons, Nat.pow_succ]
    omega

/-! ## Lengths -/

theorem numeralChars_ne_nil (n : ℕ) : numeralChars n ≠ [] := Nat.toDigits_ne_nil

theorem length_numeralChars_le {n k : ℕ} (hk : 0 < k) :
    (numeralChars n).length ≤ k ↔ n < 10 ^ k :=
  Nat.length_toDigits_le_iff (by decide) hk

/-- The numeral of a positive number does not start with a zero. -/
theorem numeralChars_head {n : ℕ} (hn : n ≠ 0) :
    ∃ c cs, numeralChars n = c :: cs ∧ c ≠ '0' := by
  obtain ⟨c, cs, h⟩ := List.exists_cons_of_ne_nil (numeralChars_ne_nil n)
  refine ⟨c, cs, h, ?_⟩
  rintro rfl
  -- a zero in front would make the rest a shorter numeral of the same number
  have hv : numeralValue cs = n := by
    rw [← numeralValue_numeralChars n, h]
    exact (numeralValue_zeros_append 1 cs).symm
  have hlt := numeralValue_lt cs
  obtain hcs | hcs := Nat.eq_zero_or_pos cs.length
  · rw [hcs] at hlt
    omega
  · have := (length_numeralChars_le hcs).mpr (hv ▸ hlt)
    rw [h, List.length_cons] at this
    omega

end Gabarit.Text
