import Gabarit.Artifact.Reader
import Gabarit.Artifact.Writer
import Gabarit.Proofs.Number.Digits
import Gabarit.Proofs.Number.Shortest
import Gabarit.Proofs.Outcome

/-!
# Numerals in artifacts

* `Ends`: what may follow a value;
* `Numeral.chars`, `Numeral.Plain`: how a numeral is written, and that it is one of JSON;
* `readNumeral_chars`: a plain numeral is read as it is;
* **`numberOf_intNumeralOf`**: the numeral of an integer stands for it, unless it is too long;
* `Numeral.charsIn`, `exists_numeral`: what is written for a finite number is a plain numeral whose decimal
  reads back, in each layout;
* **`exists_numeral_float`**: in artifacts it stands for the number.
-/

namespace Gabarit.Artifact

open Text

/-- The input goes on with a comma or a closing bracket, if it goes on. -/
def Ends (rest : Input) : Prop :=
  ∀ s ∈ rest.head?, s = some ',' ∨ s = some ']' ∨ s = some '\x7d'

/-- The input does not go on with a digit. -/
def NoDigit (rest : Input) : Prop := ∀ c, some c ∈ rest.head? → c.isDigit = false

theorem Ends.noDigit {rest : Input} (h : Ends rest) : NoDigit rest := by
  intro c hc
  obtain hs | hs | hs := h _ hc <;> cases hs <;> rfl

theorem noDigit_cons {c : Char} {rest : Input} (h : c.isDigit = false) :
    NoDigit (some c :: rest) := by
  simp [NoDigit, h]

theorem takeDigits_append {ds : List Char} {rest : Input} (h : Digits ds) (hr : NoDigit rest) :
    takeDigits (ds.map some ++ rest) = (ds, rest) := by
  induction ds with
  | nil =>
    rw [List.map_nil, List.nil_append]
    unfold takeDigits
    split
    · rename_i c rest
      rw [asciiDigit?_eq_none (hr c rfl)]
      rfl
    · rfl
  | cons d ds ih =>
    obtain ⟨hd, hds⟩ := digits_cons.mp h
    rw [List.map_cons, List.cons_append, takeDigits, asciiDigit?_of_isDigit hd, ih hds]
    rfl

theorem readDigits_append {ds : List Char} {rest : Input} (h : Digits ds) (hne : ds ≠ [])
    (hr : NoDigit rest) : readDigits (ds.map some ++ rest) = .ok (ds, rest) := by
  obtain ⟨d, ds, rfl⟩ := List.exists_cons_of_ne_nil hne
  rw [readDigits, takeDigits_append h hr]

namespace Numeral

/-- The characters of a sign. -/
def signChars (negative : Bool) : List Char := if negative then ['-'] else []

/-- The characters of the digits after the point. -/
def fracChars : Option (List Char) → List Char
  | none => []
  | some fs => '.' :: fs

/-- The characters of an exponent. -/
def exponentChars : Option (Bool × List Char) → List Char
  | none => []
  | some (negative, es) => 'e' :: (signChars negative ++ es)

/-- The characters of a numeral. -/
def chars (n : Numeral) : List Char :=
  signChars n.negative ++ (n.whole ++ (fracChars n.frac ++ exponentChars n.exponent))

/-- The numeral is one of JSON. -/
structure Plain (n : Numeral) : Prop where
  whole : Digits n.whole
  leading : ∃ c ds, n.whole = c :: ds ∧ (c = '0' → ds = [])
  frac : ∀ fs ∈ n.frac, fs ≠ [] ∧ Digits fs
  exponent : ∀ e ∈ n.exponent, e.2 ≠ [] ∧ Digits e.2

end Numeral

open Numeral

theorem readMinus_signChars (negative : Bool) {d : Char} (rest : Input) (hd : d.isDigit = true) :
    readMinus ((signChars negative).map some ++ some d :: rest) = (negative, some d :: rest) := by
  cases negative with
  | true => rfl
  | false =>
    rw [signChars, if_neg Bool.false_ne_true, List.map_nil, List.nil_append]
    unfold readMinus
    split
    · rename_i heq
      cases heq
      exact absurd hd (by decide)
    · rfl

theorem readSign_signChars (negative : Bool) {d : Char} (rest : Input) (hd : d.isDigit = true) :
    readSign ((signChars negative).map some ++ some d :: rest) = (negative, some d :: rest) := by
  unfold readSign
  split
  · rename_i heq
    cases negative with
    | true => cases heq
    | false =>
      cases heq
      exact absurd hd (by decide)
  · exact readMinus_signChars negative rest hd

theorem readExponent_chars {exponent : Option (Bool × List Char)} {rest : Input}
    (h : ∀ e ∈ exponent, e.2 ≠ [] ∧ Digits e.2) (hr : Ends rest) :
    readExponent ((exponentChars exponent).map some ++ rest) = .ok (exponent, rest) := by
  cases exponent with
  | none =>
    rw [exponentChars, List.map_nil, List.nil_append]
    unfold readExponent
    split
    · rename_i rest
      simpa using hr (some 'e') rfl
    · rename_i rest
      simpa using hr (some 'E') rfl
    · rfl
  | some e =>
    obtain ⟨negative, es⟩ := e
    obtain ⟨hne, hes⟩ := h _ rfl
    obtain ⟨d, ds, rfl⟩ := List.exists_cons_of_ne_nil hne
    have hsign := readSign_signChars negative (ds.map some ++ rest) (digits_cons.mp hes).1
    have hdigits := readDigits_append hes hne hr.noDigit
    rw [List.map_cons, List.cons_append] at hdigits
    simp only [exponentChars, List.map_cons, List.map_append, List.cons_append, List.append_assoc,
      readExponent, hsign, hdigits, Except.map]

theorem noDigit_exponentChars (exponent : Option (Bool × List Char)) {rest : Input} (hr : Ends rest) :
    NoDigit ((exponentChars exponent).map some ++ rest) := by
  cases exponent with
  | none => exact hr.noDigit
  | some e => exact noDigit_cons rfl

theorem readFraction_chars {frac : Option (List Char)} {exponent : Option (Bool × List Char)}
    {rest : Input} (h : ∀ fs ∈ frac, fs ≠ [] ∧ Digits fs) (hr : Ends rest) :
    readFraction ((fracChars frac).map some ++ ((exponentChars exponent).map some ++ rest)) =
      .ok (frac, (exponentChars exponent).map some ++ rest) := by
  have hnodigit := noDigit_exponentChars exponent hr
  cases frac with
  | none =>
    rw [fracChars, List.map_nil, List.nil_append]
    unfold readFraction
    split
    · rename_i heq
      cases exponent with
      | none =>
        rw [exponentChars, List.map_nil, List.nil_append] at heq
        rw [heq] at hr
        simpa using hr (some '.') rfl
      | some e => cases heq
    · rfl
  | some fs =>
    obtain ⟨hne, hfs⟩ := h _ rfl
    simp only [fracChars, List.map_cons, List.cons_append, readFraction,
      readDigits_append hfs hne hnodigit, Except.map]

/-- **A plain numeral is read as it is.** -/
theorem readNumeral_chars {n : Numeral} (h : n.Plain) {rest : Input} (hr : Ends rest) :
    readNumeral (n.chars.map some ++ rest) = .ok (n, rest) := by
  obtain ⟨negative, whole, frac, exponent⟩ := n
  obtain ⟨hwhole, ⟨c, ds, rfl, hzero⟩, hfrac, hexp⟩ := h
  dsimp only at hwhole hfrac hexp
  have hnodigit : NoDigit ((fracChars frac).map some ++ ((exponentChars exponent).map some ++ rest)) := by
    cases frac with
    | none => exact noDigit_exponentChars exponent hr
    | some fs => exact noDigit_cons rfl
  have hsign := readMinus_signChars negative
    (ds.map some ++ ((fracChars frac).map some ++ ((exponentChars exponent).map some ++ rest)))
    (digits_cons.mp hwhole).1
  have hdigits := readDigits_append hwhole (List.cons_ne_nil c ds) hnodigit
  rw [List.map_cons, List.cons_append] at hdigits
  have hlead : ¬((c :: ds).head? = some '0' ∧ (c :: ds).length ≠ 1) := by
    rintro ⟨hc, hlen⟩
    rw [hzero (Option.some.inj hc)] at hlen
    exact hlen rfl
  simp only [readNumeral, chars, List.map_append, List.map_cons, List.append_assoc,
    List.cons_append, hsign, hdigits, bind, Except.bind, if_neg hlead, readFraction_chars hfrac hr,
    readExponent_chars hexp hr, pure, Except.pure]

/-! ## Integers -/

/-- What is left of an integer that was stored: one that is written too long is refused. -/
def keepInt (n : Int) : Except ArtifactFault Int :=
  if integerWidth < (intNumeral n).length then .error .wrongShape else .ok n

/-- The numeral of an integer. -/
def intNumeralOf (n : Int) : Numeral := ⟨decide (n < 0), numeralChars n.natAbs, none, none⟩

theorem chars_intNumeralOf (n : Int) : (intNumeralOf n).chars = (intNumeral n).toList := by
  cases n with
  | ofNat n => simp [intNumeralOf, chars, signChars, fracChars, exponentChars, intNumeral, numeral]
  | negSucc n => simp [intNumeralOf, chars, signChars, fracChars, exponentChars, intNumeral]

theorem leading_numeralChars (n : ℕ) : ∃ c ds, numeralChars n = c :: ds ∧ (c = '0' → ds = []) := by
  obtain rfl | hn := eq_or_ne n 0
  · exact ⟨'0', [], rfl, fun _ => rfl⟩
  · obtain ⟨c, ds, h, hc⟩ := numeralChars_head hn
    exact ⟨c, ds, h, fun h0 => absurd h0 hc⟩

theorem plain_intNumeralOf (n : Int) : (intNumeralOf n).Plain :=
  ⟨digits_numeralChars _, leading_numeralChars _, by simp [intNumeralOf], by simp [intNumeralOf]⟩

theorem width_intNumeralOf (n : Int) : (intNumeralOf n).width = (intNumeral n).length := by
  rw [← String.length_toList, ← chars_intNumeralOf]
  by_cases hn : n < 0 <;>
    simp [intNumeralOf, width, chars, signChars, fracChars, exponentChars, hn, Nat.add_comm]

theorem signed_natAbs (n : Int) :
    (if decide (n < 0) = true then -(n.natAbs : Int) else n.natAbs) = n := by
  by_cases hn : n < 0
  · rw [if_pos (decide_eq_true hn)]
    omega
  · rw [if_neg (by simpa using hn)]
    omega

theorem numberOf_intNumeralOf (n : Int) :
    numberOf (intNumeralOf n) = (keepInt n).map .int := by
  have hvalue : (if (intNumeralOf n).negative then -(n.natAbs : Int) else n.natAbs) = n :=
    signed_natAbs n
  have hwhole : numeralValue (intNumeralOf n).whole = n.natAbs := numeralValue_numeralChars _
  have hinteger : (intNumeralOf n).isInteger = true := rfl
  rw [numberOf, if_pos hinteger, width_intNumeralOf, keepInt]
  by_cases h : integerWidth < (intNumeral n).length
  · rw [if_pos h, if_pos h]
    rfl
  · rw [if_neg h, if_neg h, hwhole]
    dsimp only
    rw [hvalue]
    rfl

/-! ## Floating-point numbers -/

/-- The numeral stands for a decimal with `k` zeros after its digits, and for no integer. -/
structure Numeral.Writes (n : Numeral) (d : Decimal) (k : ℕ) : Prop where
  plain : n.Plain
  broken : n.isInteger = false
  digits : numeralValue n.digits = d.digits * 10 ^ k
  scale : n.scale = d.exponent - k

theorem numberOf_float {n : Numeral} {x : Binary64} (hb : n.isInteger = false)
    (hneg : n.negative = x.isNegative) (hf : x.isFinite = true)
    (hm : Binary64.decimalMagnitude (numeralValue n.digits) n.scale = x.magnitude) :
    numberOf n = .ok (.float x) := by
  rw [numberOf, if_neg (by simp [hb])]
  dsimp only
  rw [hneg, Binary64.ofDecimal_of_magnitude hm, if_pos hf]

/-- The decimal of a numeral reads back as a number, if the decimal that it stands for does. -/
theorem Numeral.Writes.magnitude {n : Numeral} {x : Binary64} {d : Decimal} {k : ℕ} (h : n.Writes d k)
    (hf : x.isFinite = true) (h0 : x.magnitude ≠ 0) (hd : x.readsBack d = true) :
    Binary64.decimalMagnitude (numeralValue n.digits) n.scale = x.magnitude := by
  have hm := Binary64.readsBack_iff.mp hd
  rw [h.digits, h.scale, ← hm]
  apply Binary64.decimalMagnitude_shift
  · rwa [hm]
  · rw [hm]
    exact of_decide_eq_true hf

section Layout

variable {d : Decimal} {ds : List Char} (negative : Bool)

theorem writes_after (hds : Digits ds) (hne : ds ≠ []) (hv : numeralValue ds = d.digits)
    (hp : (ds.length : Int) + d.exponent ≤ 0) :
    Numeral.Writes ⟨negative, ['0'],
      some (List.replicate (-(ds.length + d.exponent)).toNat '0' ++ ds), none⟩ d 0 := by
  refine ⟨⟨digits_zeros 1, ⟨'0', [], rfl, fun _ => rfl⟩, ?_, by simp⟩, rfl, ?_, ?_⟩
  · rintro fs ⟨⟩
    exact ⟨by simp [hne], digits_append.mpr ⟨digits_zeros _, hds⟩⟩
  · rw [digits, Option.getD_some, ← List.append_assoc, ← List.replicate_one, List.replicate_append_replicate,
      numeralValue_zeros_append, hv, Nat.pow_zero, Nat.mul_one]
  · simp only [scale, exponentValue, Option.getD_some, List.length_append, List.length_replicate]
    omega

theorem writes_before (hds : Digits ds) (hl : ∃ c cs, ds = c :: cs ∧ c ≠ '0')
    (hv : numeralValue ds = d.digits) (hp : (ds.length : Int) ≤ ds.length + d.exponent) :
    Numeral.Writes ⟨negative, ds ++ List.replicate ((ds.length + d.exponent).toNat - ds.length) '0',
      some ['0'], none⟩ d (d.exponent.toNat + 1) := by
  obtain ⟨c, cs, rfl, hc⟩ := hl
  refine ⟨⟨digits_append.mpr ⟨hds, digits_zeros _⟩, ⟨c, _, List.cons_append, fun h => absurd h hc⟩,
    ?_, by simp⟩, rfl, ?_, ?_⟩
  · rintro fs ⟨⟩
    exact ⟨by simp, digits_zeros 1⟩
  · have hzeros : ((c :: cs).length + d.exponent).toNat - (c :: cs).length = d.exponent.toNat := by
      omega
    rw [digits, Option.getD_some, hzeros, ← List.replicate_one, List.append_assoc,
      List.replicate_append_replicate, numeralValue_append, numeralValue_zeros, hv,
      List.length_replicate, Nat.add_zero]
  · simp only [scale, exponentValue, Option.getD_some, List.length_cons, List.length_nil]
    omega

/-- The point stands among the digits of a decimal. -/
theorem writes_among (hds : Digits ds) (hl : ∃ c cs, ds = c :: cs ∧ c ≠ '0')
    (hv : numeralValue ds = d.digits) (hp : 0 < (ds.length : Int) + d.exponent)
    (hp' : (ds.length : Int) + d.exponent < ds.length) :
    Numeral.Writes ⟨negative, ds.take (ds.length + d.exponent).toNat,
      some (ds.drop (ds.length + d.exponent).toNat), none⟩ d 0 := by
  obtain ⟨c, cs, rfl, hc⟩ := hl
  obtain ⟨k, hk⟩ : ∃ k, (((c :: cs).length : Int) + d.exponent).toNat = k + 1 :=
    Nat.exists_eq_succ_of_ne_zero (by omega)
  have hsplit := digits_append.mp ((List.take_append_drop (k + 1) (c :: cs)).symm ▸ hds)
  rw [hk]
  refine ⟨⟨hsplit.1, ⟨c, _, List.take_succ_cons, fun h => absurd h hc⟩, ?_, by simp⟩, rfl, ?_, ?_⟩
  · rintro fs ⟨⟩
    refine ⟨?_, hsplit.2⟩
    rw [Ne, List.drop_eq_nil_iff]
    omega
  · rw [digits, Option.getD_some, List.take_append_drop, hv, Nat.pow_zero, Nat.mul_one]
  · simp only [scale, exponentValue, Option.getD_some, List.length_drop]
    omega

/-- The digits after the first one, if there are any. -/
def laterDigits (cs : List Char) : Option (List Char) := if cs = [] then none else some cs

theorem writes_exponent {c : Char} {cs : List Char} (hds : Digits (c :: cs))
    (hv : numeralValue (c :: cs) = d.digits) {e : Int} (he : e = (c :: cs).length + d.exponent - 1)
    (width : ℕ) :
    Numeral.Writes ⟨negative, [c], laterDigits cs, some (decide (e < 0), zeroPadded width e.natAbs)⟩ d 0 := by
  have hvalue : exponentValue (some (decide (e < 0), zeroPadded width e.natAbs)) = e := by
    rw [exponentValue, numeralValue_zeroPadded, signed_natAbs]
  have hcs : (laterDigits cs).getD [] = cs := by
    unfold laterDigits
    split_ifs with h
    · exact h.symm
    · rfl
  refine ⟨⟨digits_cons.mpr ⟨(digits_cons.mp hds).1, digits_nil⟩, ⟨c, [], rfl, fun _ => rfl⟩, ?_, ?_⟩,
    by simp [isInteger], ?_, ?_⟩
  · intro fs hfs
    unfold laterDigits at hfs
    split_ifs at hfs with h
    · cases hfs
    · cases hfs
      exact ⟨h, (digits_cons.mp hds).2⟩
  · rintro _ ⟨⟩
    refine ⟨?_, digits_zeroPadded _ _⟩
    simp [zeroPadded, numeralChars_ne_nil]
  · rw [digits, hcs, List.singleton_append, hv, Nat.pow_zero, Nat.mul_one]
  · rw [scale, hvalue, hcs, he, List.length_cons]
    omega

end Layout

/-- The characters of an exponent, where a positive one may have a sign. -/
def exponentIn (plus : Bool) : Option (Bool × List Char) → List Char
  | none => []
  | some (negative, es) => 'e' :: ((if negative then ['-'] else if plus then ['+'] else []) ++ es)

/-- The characters of a numeral without its sign, where a positive exponent may have one. -/
def Numeral.charsIn (plus : Bool) (n : Numeral) : List Char :=
  n.whole ++ (fracChars n.frac ++ exponentIn plus n.exponent)

theorem chars_eq_charsIn (n : Numeral) : n.chars = signChars n.negative ++ n.charsIn false := by
  obtain ⟨negative, whole, frac, exponent⟩ := n
  cases exponent <;> rfl

theorem exists_writes (l : FloatLayout) (negative : Bool) {d : Decimal} (hd : d.digits ≠ 0) :
    ∃ (n : Numeral) (k : ℕ), n.Writes d k ∧ n.negative = negative ∧ n.charsIn l.plus = d.chars l := by
  have hdigits := digits_numeralChars d.digits
  have hvalue := numeralValue_numeralChars d.digits
  have hlead := numeralChars_head hd
  unfold Decimal.chars
  generalize numeralChars d.digits = ds at *
  obtain ⟨c, cs, rfl, hc⟩ := hlead
  dsimp only
  by_cases hin : l.lowest < ((c :: cs).length : Int) + d.exponent ∧
      ((c :: cs).length : Int) + d.exponent ≤ l.highest
  · rw [if_pos hin]
    split_ifs with hafter hbefore
    · exact ⟨_, 0, writes_after negative hdigits (List.cons_ne_nil c cs) hvalue hafter, rfl, by
        simp [Numeral.charsIn, fracChars, exponentIn]⟩
    · exact ⟨_, _, writes_before negative hdigits ⟨c, cs, rfl, hc⟩ hvalue hbefore, rfl, by
        simp [Numeral.charsIn, fracChars, exponentIn]⟩
    · exact ⟨_, 0, writes_among negative hdigits ⟨c, cs, rfl, hc⟩ hvalue (by omega) (by omega), rfl, by
        simp [Numeral.charsIn, fracChars, exponentIn]⟩
  · rw [if_neg hin]
    refine ⟨_, 0, writes_exponent negative hdigits hvalue rfl l.width, rfl, ?_⟩
    generalize ((c :: cs).length : Int) + d.exponent - 1 = e
    cases cs <;> simp [Numeral.charsIn, laterDigits, fracChars, exponentIn]

/-- **What is written for a finite number is a plain numeral whose decimal reads back.** -/
theorem exists_numeral (l : FloatLayout) {x : Binary64} (hf : x.isFinite = true) :
    ∃ n : Numeral, n.Plain ∧ n.isInteger = false ∧ n.negative = x.isNegative ∧
      signChars n.negative ++ n.charsIn l.plus = x.chars l ∧
      Binary64.decimalMagnitude (numeralValue n.digits) n.scale = x.magnitude := by
  unfold Binary64.chars
  by_cases h0 : x.magnitude = 0
  · have hz : x.isZero = true := by simp [Binary64.isZero, h0]
    refine ⟨⟨x.isNegative, ['0'], some ['0'], none⟩,
      ⟨digits_zeros 1, ⟨'0', [], rfl, fun _ => rfl⟩, ?_, by simp⟩, rfl, rfl, ?_, ?_⟩
    · rintro fs ⟨⟩
      exact ⟨by simp, digits_zeros 1⟩
    · simp [hz, Numeral.charsIn, signChars, fracChars, exponentIn]
    · have hv : numeralValue (digits ⟨x.isNegative, ['0'], some ['0'], none⟩) = 0 :=
        numeralValue_zeros 2
      rw [hv, Binary64.decimalMagnitude_zero, h0]
  · have hz : x.isZero = false := by simp [Binary64.isZero, h0]
    have hback := Binary64.readsBack_shortest hf h0
    have hd : x.shortest.digits ≠ 0 := by
      intro hd
      have := Binary64.readsBack_iff.mp hback
      rw [hd, Binary64.decimalMagnitude_zero] at this
      exact h0 this.symm
    obtain ⟨n, k, hw, hneg, hchars⟩ := exists_writes l x.isNegative hd
    refine ⟨n, hw.plain, hw.broken, hneg, ?_, hw.magnitude hf h0 hback⟩
    simp only [hchars, hneg, hz, Bool.false_eq_true, if_false, signChars]

/-- **What an artifact holds for a finite number is a plain numeral that stands for it.** -/
theorem exists_numeral_float {x : Binary64} (hf : x.isFinite = true) :
    ∃ n : Numeral, n.Plain ∧ n.chars = x.chars artifactLayout ∧ numberOf n = .ok (.float x) := by
  obtain ⟨n, hplain, hbroken, hneg, hchars, hm⟩ := exists_numeral artifactLayout hf
  exact ⟨n, hplain, by rw [chars_eq_charsIn, ← hchars]; rfl, numberOf_float hbroken hneg hf hm⟩

end Gabarit.Artifact
