import Gabarit.Number.Shortest
import Gabarit.Proofs.Number.Nearest
import Mathlib.Tactic.Positivity

/-!
# Decimals that read back

* `decimalMagnitude`: the magnitude that a decimal is read as;
* `decimalMagnitude_shift`: zeros at the end of the digits can be moved to the exponent;
* `readsBack_expansion`: the exact expansion of a number reads back;
* **`readsBack_shortest`**: the decimal that is written for a number reads back.
-/

namespace Gabarit.Binary64

/-- A bound for the number of decimal digits. -/
def decimalPlaces (digits : ℕ) : Int := (digits.log2 : Int) / 3 + 1

/-- The magnitude that a decimal is read as. -/
def decimalMagnitude (digits : ℕ) (e : Int) : ℕ :=
  if digits = 0 then 0
  else if e > 400 then infinityMagnitude
  else if decimalPlaces digits + e < -400 then 0
  else min (roundMagnitude (digits * 10 ^ e.toNat) (10 ^ (-e).toNat)) infinityMagnitude

theorem ofDecimal_eq (neg : Bool) (digits : ℕ) (e : Int) :
    ofDecimal neg digits e = ofMagnitude neg (decimalMagnitude digits e) := by
  unfold ofDecimal decimalMagnitude
  by_cases hd : digits = 0
  · rw [if_pos hd, if_pos hd]
    rfl
  rw [if_neg hd, if_neg hd]
  by_cases hh : e > 400
  · rw [if_pos hh, if_pos hh]
    rfl
  rw [if_neg hh, if_neg hh]
  by_cases hl : decimalPlaces digits + e < -400
  · rw [if_pos hl]
    exact if_pos hl
  rw [if_neg hl]
  refine (if_neg hl).trans ?_
  by_cases hn : e < 0
  · have h0 : e.toNat = 0 := by omega
    have hneg : e.natAbs = (-e).toNat := by omega
    rw [if_pos hn, ofQuotient, if_neg hd, h0, hneg, Nat.pow_zero, Nat.mul_one]
    rfl
  · have h0 : (-e).toNat = 0 := by omega
    have hpos : e.natAbs = e.toNat := by omega
    have hnum : digits * Nat.pow 10 e.toNat ≠ 0 := Nat.mul_ne_zero hd (Nat.pow_pos (by decide)).ne'
    rw [if_neg hn, hpos, ofQuotient, if_neg hnum, h0, Nat.pow_zero]
    rfl

theorem infinityMagnitude_lt : infinityMagnitude < 2 ^ 63 := by decide

theorem decimalMagnitude_le (digits : ℕ) (e : Int) :
    decimalMagnitude digits e ≤ infinityMagnitude := by
  unfold decimalMagnitude
  split_ifs
  · exact Nat.zero_le _
  · exact le_refl _
  · exact Nat.zero_le _
  · exact Nat.min_le_right _ _

theorem readsBack_iff {x : Binary64} {d : Decimal} :
    x.readsBack d = true ↔ decimalMagnitude d.digits d.exponent = x.magnitude := by
  have hlt := (decimalMagnitude_le d.digits d.exponent).trans_lt infinityMagnitude_lt
  rw [readsBack, beq_iff_eq, ofDecimal_eq]
  constructor
  · intro h
    have he : ofMagnitude false (decimalMagnitude d.digits d.exponent) =
        ofMagnitude false x.magnitude := congrArg Binary64.mk h
    exact ofMagnitude_inj hlt x.magnitude_lt he
  · intro h
    rw [h]

/-- What reads a number by its magnitude reads it with its sign. -/
theorem ofDecimal_of_magnitude {x : Binary64} {digits : ℕ} {e : Int}
    (h : decimalMagnitude digits e = x.magnitude) : ofDecimal x.isNegative digits e = x := by
  rw [ofDecimal_eq, h, ofMagnitude_self]

theorem decimalMagnitude_zero (e : Int) : decimalMagnitude 0 e = 0 := by
  simp [decimalMagnitude]

/-! ## Equal decimals -/

theorem roundMagnitude_congr {num den num' den' : ℕ} (hn : num ≠ 0) (hd : den ≠ 0) (hn' : num' ≠ 0)
    (hd' : den' ≠ 0) (h : num * den' = num' * den) :
    roundMagnitude num den = roundMagnitude num' den' := by
  rw [← roundMagnitude_mul (Nat.pos_of_ne_zero hd') hn hd,
    ← roundMagnitude_mul (Nat.pos_of_ne_zero hd) hn' hd', Nat.mul_comm den' num, h,
    Nat.mul_comm num' den, Nat.mul_comm den' den]

theorem decimalMagnitude_of_range {digits : ℕ} {e : Int} (hd : digits ≠ 0) (hh : e ≤ 400)
    (hl : -400 ≤ decimalPlaces digits + e) : decimalMagnitude digits e =
      min (roundMagnitude (digits * 10 ^ e.toNat) (10 ^ (-e).toNat)) infinityMagnitude := by
  rw [decimalMagnitude, if_neg hd, if_neg (by omega), if_neg (by omega)]

theorem add_le_log2_mul {n k a : ℕ} (hn : n ≠ 0) (h : 2 ^ k ≤ a) :
    n.log2 + k ≤ (n * a).log2 := by
  have ha : a ≠ 0 := ((Nat.two_pow_pos k).trans_le h).ne'
  rw [Nat.le_log2 (Nat.mul_ne_zero hn ha), Nat.pow_add]
  exact Nat.mul_le_mul (Nat.log2_self_le hn) h

theorem decimalPlaces_mul (n k : ℕ) (hn : n ≠ 0) :
    decimalPlaces n + k ≤ decimalPlaces (n * 10 ^ k) := by
  have hpow : 2 ^ (3 * k) ≤ 10 ^ k := by
    rw [Nat.pow_mul]
    exact Nat.pow_le_pow_left (by decide) k
  have := add_le_log2_mul hn hpow
  unfold decimalPlaces
  omega

/-- A decimal that reads as a number, other than zero or infinite, does so with zeros moved from the
exponent to the digits. -/
theorem decimalMagnitude_shift {digits : ℕ} {e : Int} (k : ℕ) (h0 : decimalMagnitude digits e ≠ 0)
    (hm : decimalMagnitude digits e < infinityMagnitude) :
    decimalMagnitude (digits * 10 ^ k) (e - k) = decimalMagnitude digits e := by
  have hd : digits ≠ 0 := by
    rintro rfl
    exact h0 (decimalMagnitude_zero e)
  have hh : e ≤ 400 := by
    by_contra hgt
    rw [decimalMagnitude, if_neg hd, if_pos (by omega)] at hm
    exact lt_irrefl _ hm
  have hl : -400 ≤ decimalPlaces digits + e := by
    by_contra hlt
    rw [decimalMagnitude, if_neg hd, if_neg (by omega), if_pos (by omega)] at h0
    exact h0 rfl
  have hplaces := decimalPlaces_mul digits k hd
  have hd' : digits * 10 ^ k ≠ 0 := Nat.mul_ne_zero hd (by positivity)
  rw [decimalMagnitude_of_range hd hh hl, decimalMagnitude_of_range hd' (by omega) (by omega)]
  have hexp : k + (e - k).toNat + (-e).toNat = e.toNat + (-(e - k)).toNat := by omega
  have hround : roundMagnitude (digits * 10 ^ k * 10 ^ (e - k).toNat) (10 ^ (-(e - k)).toNat) =
      roundMagnitude (digits * 10 ^ e.toNat) (10 ^ (-e).toNat) := by
    refine roundMagnitude_congr (Nat.mul_ne_zero hd' (by positivity)) (by positivity)
      (Nat.mul_ne_zero hd (by positivity)) (by positivity) ?_
    rw [Nat.mul_assoc, ← Nat.pow_add, Nat.mul_assoc, ← Nat.pow_add, Nat.mul_assoc, ← Nat.pow_add,
      ← Nat.add_assoc, hexp]
  rw [hround]

/-! ## The shortest decimal -/

theorem significand_ne_zero {x : Binary64} (h : x.magnitude ≠ 0) : x.significand ≠ 0 := by
  simp only [significand, Nat.pow_eq]
  split_ifs <;> omega

theorem numerator_ne_zero {x : Binary64} (h : x.magnitude ≠ 0) : x.numerator ≠ 0 :=
  Nat.mul_ne_zero (significand_ne_zero h) (Nat.two_pow_pos _).ne'

theorem readsBack_expansion {x : Binary64} (hf : x.isFinite = true) (h0 : x.magnitude ≠ 0) :
    x.readsBack x.expansion = true := by
  have hs := significand_ne_zero h0
  have hn := numerator_ne_zero h0
  have hround := roundMagnitude_self hn
  have hmin : min x.magnitude infinityMagnitude = x.magnitude :=
    Nat.min_eq_left (of_decide_eq_true hf).le
  rw [readsBack_iff]
  unfold expansion
  split_ifs with hx
  · -- the digits are those of the numerator with the powers of five that make the denominator one of ten
    have hfive : (5 : ℕ) ^ (1074 - x.steps) ≠ 0 := by positivity
    have hlog : x.significand.log2 + 2 * (1074 - x.steps) ≤
        (x.significand * 5 ^ (1074 - x.steps)).log2 := by
      refine add_le_log2_mul hs ?_
      rw [Nat.pow_mul]
      exact Nat.pow_le_pow_left (by decide) _
    have hlow : -400 ≤ decimalPlaces (x.significand * 5 ^ (1074 - x.steps)) + (x.steps - 1074 : Int) := by
      unfold decimalPlaces
      omega
    simp only [Nat.pow_eq]
    rw [decimalMagnitude_of_range (Nat.mul_ne_zero hs hfive) (by omega) hlow]
    have hup : ((x.steps : Int) - 1074).toNat = 0 := by omega
    have hdown : (-((x.steps : Int) - 1074)).toNat = 1074 - x.steps := by omega
    have hzero : x.steps - 1074 = 0 := by omega
    have hsame : roundMagnitude (x.significand * 5 ^ (1074 - x.steps)) (10 ^ (1074 - x.steps)) =
        roundMagnitude x.numerator x.denominator := by
      refine roundMagnitude_congr (Nat.mul_ne_zero hs hfive) (by positivity) hn
        (Nat.two_pow_pos _).ne' ?_
      simp only [numerator, denominator, Nat.pow_eq, hzero, Nat.pow_zero, Nat.mul_one]
      rw [Nat.mul_assoc, ← Nat.mul_pow]
    rw [hup, hdown, Nat.pow_zero, Nat.mul_one, hsame, hround, hmin]
  · simp only [Nat.pow_eq]
    have hone : x.denominator = 1 := by
      have hsteps : 1074 - x.steps = 0 := by omega
      rw [denominator, hsteps]
    have hnum : x.significand * 2 ^ (x.steps - 1074) = x.numerator := rfl
    have hplaces : 0 ≤ decimalPlaces x.numerator := by unfold decimalPlaces; omega
    rw [hnum, decimalMagnitude_of_range hn (by omega) (by omega)]
    simp only [Int.toNat_zero, Int.neg_zero, Nat.pow_zero, Nat.mul_one]
    rw [← hone, hround, hmin]

/-- **The decimal that is written for a number reads back.** -/
theorem readsBack_shortest {x : Binary64} (hf : x.isFinite = true) (h0 : x.magnitude ≠ 0) :
    x.readsBack x.shortest = true := by
  have hd : x.readsBack (((candidates x).find? x.readsBack).getD x.expansion) = true := by
    cases h : (candidates x).find? x.readsBack with
    | none => exact readsBack_expansion hf h0
    | some d => exact List.find?_some h
  unfold shortest
  dsimp only
  split_ifs with hshort
  · exact hshort
  · exact hd

end Gabarit.Binary64
