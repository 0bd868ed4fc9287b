import Gabarit.Number.Binary64
import Mathlib.Tactic.Common
import Mathlib.Tactic.Ring

/-!
# Rounding to the nearest number

* `Below`: a quotient lies below a power of two;
* `le_binaryPlace`, `binaryPlace_le`: the power of two that a quotient stands at;
* **`roundMagnitude_mul`**: rounding depends on the quotient only;
* **`roundMagnitude_self`**: a number is the one nearest to itself;
* `ofMagnitude_self`: a number is its sign and its magnitude.
-/

namespace Gabarit.Binary64

/-- The quotient is less than two to the power of `k - 1126`. -/
def Below (num den k : ℕ) : Prop := num * 2 ^ (1126 - k) < den * 2 ^ (k - 1126)

variable {num den : ℕ}

theorem Below.succ {k : ℕ} (h : Below num den k) : Below num den (k + 1) := by
  unfold Below at h ⊢
  rcases lt_or_ge k 1126 with hk | hk
  · have hl : 1126 - k = 1126 - (k + 1) + 1 := by omega
    have hr : k + 1 - 1126 = k - 1126 := by omega
    rw [hl, Nat.pow_succ, ← Nat.mul_assoc] at h
    rw [hr]
    omega
  · have hl : 1126 - (k + 1) = 1126 - k := by omega
    have hr : k + 1 - 1126 = k - 1126 + 1 := by omega
    rw [hl, hr, Nat.pow_succ, ← Nat.mul_assoc]
    omega

theorem Below.mono {k l : ℕ} (h : Below num den k) (hkl : k ≤ l) : Below num den l := by
  induction l, hkl using Nat.le_induction with
  | base => exact h
  | succ l _ ih => exact ih.succ

theorem below_mul {c k : ℕ} (hc : 0 < c) : Below (c * num) (c * den) k ↔ Below num den k := by
  rw [Below, Below, Nat.mul_assoc, Nat.mul_assoc]
  exact Nat.mul_lt_mul_left hc

theorem two_pow_mul {a b c : ℕ} (h : a + b = c) : 2 ^ a * 2 ^ b = 2 ^ c := by
  rw [← Nat.pow_add, h]

theorem below_log (hd : den ≠ 0) :
    Below num den (1126 + num.log2 - den.log2 + 1) := by
  have hnum := Nat.lt_log2_self (n := num)
  have hden := Nat.log2_self_le hd
  unfold Below
  generalize hl : 1126 - (1126 + num.log2 - den.log2 + 1) = l
  generalize hr : 1126 + num.log2 - den.log2 + 1 - 1126 = r
  calc num * 2 ^ l < 2 ^ (num.log2 + 1) * 2 ^ l :=
        Nat.mul_lt_mul_of_pos_right hnum (Nat.two_pow_pos _)
    _ = 2 ^ (num.log2 + 1 + l) := two_pow_mul rfl
    _ ≤ 2 ^ (den.log2 + r) := Nat.pow_le_pow_right (by omega) (by omega)
    _ = 2 ^ den.log2 * 2 ^ r := (two_pow_mul rfl).symm
    _ ≤ den * 2 ^ r := Nat.mul_le_mul_right _ hden

theorem not_below_log (hn : num ≠ 0) {k : ℕ} (hk : k + 1 = 1126 + num.log2 - den.log2) :
    ¬Below num den k := by
  have hnum := Nat.log2_self_le hn
  have hden := Nat.lt_log2_self (n := den)
  unfold Below
  rw [Nat.not_lt]
  generalize hl : 1126 - k = l
  generalize hr : k - 1126 = r
  calc den * 2 ^ r ≤ 2 ^ (den.log2 + 1) * 2 ^ r := Nat.mul_le_mul_right _ hden.le
    _ = 2 ^ (den.log2 + 1 + r) := two_pow_mul rfl
    _ ≤ 2 ^ (num.log2 + l) := Nat.pow_le_pow_right (by omega) (by omega)
    _ = 2 ^ num.log2 * 2 ^ l := (two_pow_mul rfl).symm
    _ ≤ num * 2 ^ l := Nat.mul_le_mul_right _ hnum

/-- The quotient lies below the power of two after its place, and not below that at its place. -/
theorem binaryPlace_spec (hn : num ≠ 0) (hd : den ≠ 0) :
    Below num den (binaryPlace num den + 1) ∧
      (binaryPlace num den = 0 ∨ ¬Below num den (binaryPlace num den)) := by
  have hup : Below num den _ := below_log hd
  have hnot := @not_below_log num den hn
  unfold binaryPlace
  dsimp only
  generalize 1126 + num.log2 - den.log2 = k at *
  split_ifs with h
  · change Below num den k at h
    obtain _ | k := k
    · exact ⟨hup, .inl rfl⟩
    · exact ⟨h, .inr (hnot rfl)⟩
  · exact ⟨hup, .inr h⟩

theorem le_binaryPlace (hn : num ≠ 0) (hd : den ≠ 0) {k : ℕ} (h : k = 0 ∨ ¬Below num den k) :
    k ≤ binaryPlace num den := by
  by_contra hlt
  obtain rfl | h := h
  · omega
  · exact h ((binaryPlace_spec hn hd).1.mono (by omega))

theorem binaryPlace_le (hn : num ≠ 0) (hd : den ≠ 0) {k : ℕ} (h : Below num den (k + 1)) :
    binaryPlace num den ≤ k := by
  by_contra hlt
  obtain h0 | hnot := (binaryPlace_spec hn hd).2
  · omega
  · exact hnot (h.mono (by omega))

theorem binaryPlace_mul {c : ℕ} (hc : 0 < c) (hn : num ≠ 0) (hd : den ≠ 0) :
    binaryPlace (c * num) (c * den) = binaryPlace num den := by
  have hn' : c * num ≠ 0 := Nat.mul_ne_zero hc.ne' hn
  have hd' : c * den ≠ 0 := Nat.mul_ne_zero hc.ne' hd
  have h := binaryPlace_spec hn hd
  apply Nat.le_antisymm
  · exact binaryPlace_le hn' hd' ((below_mul hc).mpr h.1)
  · exact le_binaryPlace hn' hd' (h.2.imp_right fun hb => mt (below_mul hc).mp hb)

/-! ## Rounding -/

theorem divideToEven_mul {c : ℕ} (hc : 0 < c) (num den : ℕ) :
    divideToEven (c * num) (c * den) = divideToEven num den := by
  have htwice : 2 * (c * (num % den)) = c * (2 * (num % den)) := by ring
  simp only [divideToEven, Nat.mul_div_mul_left num den hc, Nat.mul_mod_mul_left, htwice,
    Nat.mul_lt_mul_left hc]

theorem divideToEven_mul_self (n : ℕ) {c : ℕ} (hc : 0 < c) : divideToEven (n * c) c = n := by
  have h : 2 * (n * c % c) < c := by rwa [Nat.mul_mod_left, Nat.mul_zero]
  simp only [divideToEven, if_pos h]
  exact Nat.mul_div_cancel n hc

/-- **Rounding depends on the quotient only.** -/
theorem roundMagnitude_mul {c : ℕ} (hc : 0 < c) (hn : num ≠ 0) (hd : den ≠ 0) :
    roundMagnitude (c * num) (c * den) = roundMagnitude num den := by
  simp only [roundMagnitude, stepsOf, binaryPlace_mul hc hn hd, Nat.mul_assoc, divideToEven_mul hc]

theorem significand_lt (x : Binary64) : x.significand < 2 ^ 53 := by
  have h := Nat.mod_lt x.magnitude (Nat.two_pow_pos 52)
  simp only [significand, Nat.pow_eq]
  split_ifs with hx <;> omega

theorem mul_two_pow_lt {a n u l d r : ℕ} (ha : a < 2 ^ n) (h : n + (u + l) ≤ d + r) :
    a * 2 ^ u * 2 ^ l < 2 ^ d * 2 ^ r := by
  calc a * 2 ^ u * 2 ^ l = a * 2 ^ (u + l) := by rw [Nat.mul_assoc, two_pow_mul rfl]
    _ < 2 ^ n * 2 ^ (u + l) := Nat.mul_lt_mul_of_pos_right ha (Nat.two_pow_pos _)
    _ = 2 ^ (n + (u + l)) := two_pow_mul rfl
    _ ≤ 2 ^ (d + r) := Nat.pow_le_pow_right (by omega) h
    _ = 2 ^ d * 2 ^ r := (two_pow_mul rfl).symm

theorem le_mul_two_pow {a n u l d r : ℕ} (ha : 2 ^ n ≤ a) (h : d + r ≤ n + (u + l)) :
    2 ^ d * 2 ^ r ≤ a * 2 ^ u * 2 ^ l := by
  calc 2 ^ d * 2 ^ r = 2 ^ (d + r) := two_pow_mul rfl
    _ ≤ 2 ^ (n + (u + l)) := Nat.pow_le_pow_right (by omega) h
    _ = 2 ^ n * 2 ^ (u + l) := (two_pow_mul rfl).symm
    _ ≤ a * 2 ^ (u + l) := Nat.mul_le_mul_right _ ha
    _ = a * 2 ^ u * 2 ^ l := by rw [Nat.mul_assoc, two_pow_mul rfl]

theorem below_value (x : Binary64) : Below x.numerator x.denominator (x.steps + 105) :=
  mul_two_pow_lt x.significand_lt (by omega)

theorem not_below_value {x : Binary64} (h : x.steps ≠ 0) :
    ¬Below x.numerator x.denominator (x.steps + 104) := by
  have hs : 2 ^ 52 ≤ x.significand := by
    simp only [steps, significand, Nat.pow_eq] at h ⊢
    split_ifs <;> omega
  exact Nat.not_lt.mpr (le_mul_two_pow hs (by omega))

theorem stepsOf_value {x : Binary64} (hn : x.numerator ≠ 0) :
    stepsOf x.numerator x.denominator = x.steps := by
  have hd : x.denominator ≠ 0 := (Nat.two_pow_pos _).ne'
  have hle := binaryPlace_le hn hd x.below_value
  unfold stepsOf
  obtain h0 | h0 := eq_or_ne x.steps 0
  · omega
  · have hge := le_binaryPlace hn hd (.inr (not_below_value h0))
    omega

/-- **A number is the one nearest to itself.** -/
theorem roundMagnitude_self {x : Binary64} (hn : x.numerator ≠ 0) :
    roundMagnitude x.numerator x.denominator = x.magnitude := by
  have hs : x.steps * 2 ^ 52 + x.significand = x.magnitude := by
    simp only [steps, significand, Nat.pow_eq]
    split_ifs <;> omega
  have hnum : x.numerator * 2 ^ (1074 - x.steps) =
      x.significand * (x.denominator * 2 ^ (x.steps - 1074)) := by
    simp only [numerator, denominator, Nat.pow_eq]
    ring
  simp only [roundMagnitude, stepsOf_value hn, Nat.pow_eq]
  have hden : 0 < x.denominator * 2 ^ (x.steps - 1074) :=
    Nat.mul_pos (Nat.two_pow_pos _) (Nat.two_pow_pos _)
  rw [hnum, divideToEven_mul_self _ hden, hs]

/-! ## Signs and magnitudes -/

theorem magnitude_lt (x : Binary64) : x.magnitude < 2 ^ 63 := Nat.mod_lt _ (Nat.two_pow_pos 63)

/-- A number is its sign and its magnitude. -/
theorem ofMagnitude_self (x : Binary64) : ofMagnitude x.isNegative x.magnitude = x := by
  have hlt := x.bits.toNat_lt
  obtain ⟨bits⟩ := x
  simp only [ofMagnitude, isNegative, magnitude, Nat.pow_eq, decide_eq_true_eq] at hlt ⊢
  congr 1
  rw [← UInt64.toNat_inj, UInt64.toNat_ofNat']
  split_ifs <;> omega

theorem ofMagnitude_inj {neg : Bool} {m n : ℕ} (hm : m < 2 ^ 63) (hn : n < 2 ^ 63)
    (h : ofMagnitude neg m = ofMagnitude neg n) : m = n := by
  simp only [ofMagnitude, Nat.pow_eq, Binary64.mk.injEq, ← UInt64.toNat_inj,
    UInt64.toNat_ofNat'] at h
  split_ifs at h <;> omega

end Gabarit.Binary64
