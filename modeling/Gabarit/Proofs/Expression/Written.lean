import Gabarit.Proofs.Charset.Utf8
import Gabarit.Proofs.Expression.Operand
import Gabarit.Value.Text

/-!
# Written literals and calls

* `Spells`: the characters of an operand, with its expression;
* `spells_number`, `spells_quoted`: numbers with their signs, and texts between quotes;
* **`exists_writes`**: what is written for a scalar is an operand that stands for it;
* `lexes_closedChars`: the arguments of a call, one after the other;
* **`parse_callChars`**, `parse_name`: a written call and a name are parsed as such.
-/

namespace Gabarit

open Text

open Artifact.Numeral (signChars)

/-! ## Numbers -/

theorem Text.toList_intNumeral (n : Int) :
    (intNumeral n).toList = signChars (decide (n < 0)) ++ numeralChars n.natAbs := by
  rw [← Artifact.chars_intNumeralOf]
  simp [Artifact.intNumeralOf, Artifact.Numeral.chars, Artifact.Numeral.fracChars,
    Artifact.Numeral.exponentChars]

theorem Value.intText_eq_ok {n : Int} {t : String} :
    intText n = .ok t ↔ (numeralChars n.natAbs).length ≤ digitLimit ∧ t = intNumeral n := by
  have hlimit : exceedsDigitLimit n = false ↔ (numeralChars n.natAbs).length ≤ digitLimit := by
    rw [exceedsDigitLimit, decide_eq_false_iff_not, not_le, length_numeralChars_le (by decide), Nat.pow_eq]
  rw [intText, ← hlimit]
  cases exceedsDigitLimit n <;> simp [eq_comm]

theorem Binary64.negate_ofMagnitude {m : ℕ} (h : m < 2 ^ 63) :
    (ofMagnitude false m).negate = ofMagnitude true m := by
  have hbits : (ofMagnitude false m).bits.toNat = m := by
    simp only [ofMagnitude, Bool.false_eq_true, if_false, Nat.zero_add, UInt64.toNat_ofNat']
    omega
  have hmagnitude : (ofMagnitude false m).magnitude = m := by
    rw [magnitude, hbits, Nat.pow_eq, Nat.mod_eq_of_lt h]
  have hsign : (ofMagnitude false m).isNegative = false := by
    rw [isNegative, hbits, Nat.pow_eq, decide_eq_false_iff_not, not_le]
    exact h
  rw [negate, hmagnitude, hsign, Bool.not_false]

namespace Expression

variable {t cs : List Char} {c : Char}

/-- The characters that numbers are written with. -/
def IsNumeric (c : Char) : Prop := c.isDigit = true ∨ c ∈ ['.', 'e', '+', '-']

theorem isNumeric_of_digits (h : Digits cs) : ∀ c ∈ cs, IsNumeric c := fun c hc => .inl (h c hc)

theorem isNumeric_signChars (negative : Bool) : ∀ c ∈ signChars negative, IsNumeric c := by
  intro c hc
  cases negative with
  | true =>
    rw [signChars, if_pos rfl, List.mem_singleton] at hc
    subst hc
    exact .inr (by decide)
  | false => cases hc

theorem isNumeric_charsIn {n : Artifact.Numeral} (h : n.Plain) (plus : Bool) :
    ∀ c ∈ n.charsIn plus, IsNumeric c := by
  obtain ⟨negative, whole, frac, exponent⟩ := n
  obtain ⟨hwhole, -, hfrac, hexponent⟩ := h
  dsimp only at hwhole hfrac hexponent
  simp only [Artifact.Numeral.charsIn, List.forall_mem_append]
  refine ⟨isNumeric_of_digits hwhole, ?_, ?_⟩
  · cases frac with
    | none => exact List.forall_mem_nil _
    | some fs => exact List.forall_mem_cons.mpr ⟨.inr (by decide), isNumeric_of_digits (hfrac fs rfl).2⟩
  · cases exponent with
    | none => exact List.forall_mem_nil _
    | some e =>
      obtain ⟨negative, es⟩ := e
      simp only [Artifact.exponentIn, List.forall_mem_cons, List.forall_mem_append]
      refine ⟨.inr (by decide), ?_, isNumeric_of_digits (hexponent _ rfl).2⟩
      cases negative <;> cases plus <;> simp [IsNumeric]

theorem not_isNumeric : ∀ c ∈ ['\r', '\x00', '%'], ¬IsNumeric c := by
  unfold IsNumeric
  decide

/-! ## Operands -/

/-- The characters are those of an operand, on one line. -/
structure Spells (t : List Char) (e : Expr) : Prop where
  operand : ∃ ts, Tokens t ts ∧ Operand ts e
  noReturn : '\r' ∉ t
  noNul : '\x00' ∉ t

theorem spells_word {token : Token} {e : Expr} (h : AsciiName t) (htoken : wordToken? t = some token)
    (he : operand? token = some e) : Spells t e where
  operand := ⟨[token], .name h htoken, .plain he⟩
  noReturn := h.not_mem (by decide)
  noNul := h.not_mem (by decide)

/-- A number with a sign in front, if it is negative. -/
theorem spells_number {token : Token} {e : Expr} (negative : Bool) (hc : c.isDigit = true)
    (hread : ∀ rest, Stops rest → readNumber (c :: (cs ++ rest)) = some (token, rest))
    (hnumeric : ∀ d ∈ c :: cs, IsNumeric d) (he : operand? token = some e) :
    Spells (signChars negative ++ c :: cs) (if negative then .signed true e else e) := by
  have hall : ∀ d ∈ signChars negative ++ c :: cs, IsNumeric d :=
    List.forall_mem_append.mpr ⟨isNumeric_signChars negative, hnumeric⟩
  refine ⟨?_, fun h => not_isNumeric _ (by decide) (hall _ h), fun h => not_isNumeric _ (by decide) (hall _ h)⟩
  have htokens := Tokens.number hc hread
  cases negative with
  | true => exact ⟨_, htokens.negative hc, .negative he⟩
  | false => exact ⟨_, htokens, .plain he⟩

theorem spells_quoted {q : Char} (hq : IsQuote q) (ps : List Point) :
    Spells (q :: (escaped q ps ++ [q])) (.scalar (.ofPoints ps)) where
  operand := ⟨_, .quoted hq ps, .plain rfl⟩
  noReturn := by
    have hescaped : '\r' ∉ escaped q ps := not_mem_escaped (by decide) hq
    have hne : '\r' ≠ q := by obtain rfl | rfl := hq <;> decide
    simp [hescaped, hne]
  noNul := by
    have hescaped : '\x00' ∉ escaped q ps := not_mem_escaped (by decide) hq
    have hne : '\x00' ≠ q := by obtain rfl | rfl := hq <;> decide
    simp [hescaped, hne]

/-- How a scalar is written: as an operand that is no name and stands for it. A percent sign stands in it
only between quotes. -/
structure Writes (v : Scalar) (t : List Char) (e : Expr) : Prop where
  spells : Spells t e
  value : e.evaluate = .ok (.scalar v)
  literal : ∀ s, e ≠ .name s
  percent : '%' ∉ t ∨ ∃ ps q, v = .ofPoints ps ∧ IsQuote q ∧ t = q :: (escaped q ps ++ [q])

theorem writes_int {n : Int} (h : (numeralChars n.natAbs).length ≤ digitLimit) :
    ∃ e, Writes (.int n) (intNumeral n).toList e := by
  obtain ⟨c, cs, hcs⟩ := List.exists_cons_of_ne_nil (numeralChars_ne_nil n.natAbs)
  have hdigits := hcs ▸ digits_numeralChars n.natAbs
  have hspells := spells_number (decide (n < 0)) (digits_cons.mp hdigits).1
    (fun rest hrest => by rw [← List.cons_append, ← hcs, readNumber_numeralChars h hrest])
    (isNumeric_of_digits hdigits) rfl
  rw [← hcs, ← toList_intNumeral] at hspells
  have hnumeric : ∀ d ∈ (intNumeral n).toList, IsNumeric d := by
    rw [toList_intNumeral, List.forall_mem_append]
    exact ⟨isNumeric_signChars _, isNumeric_of_digits (digits_numeralChars _)⟩
  refine ⟨_, hspells, ?_, ?_, .inl fun hmem => not_isNumeric _ (by decide) (hnumeric _ hmem)⟩
  · by_cases hn : n < 0
    · rw [decide_eq_true hn, if_pos rfl]
      have hvalue : -(n.natAbs : Int) = n := by omega
      exact congrArg (fun n => Except.ok (Literal.scalar (.int n))) hvalue
    · rw [decide_eq_false hn, if_neg Bool.false_ne_true]
      have hvalue : (n.natAbs : Int) = n := by omega
      exact congrArg (fun n => Except.ok (Literal.scalar (.int n))) hvalue
  · split_ifs <;> nofun

theorem writes_float {x : Binary64} (h : x.isFinite = true) :
    ∃ e, Writes (.float x) (x.chars valueLayout) e := by
  obtain ⟨n, hplain, hbroken, hneg, hchars, hm⟩ := Artifact.exists_numeral valueLayout h
  obtain ⟨c, cs, hwhole, -⟩ := hplain.leading
  have hstart : n.charsIn true = c :: (cs ++ (Artifact.Numeral.fracChars n.frac ++
      Artifact.exponentIn true n.exponent)) := by
    rw [Artifact.Numeral.charsIn, hwhole]
    rfl
  have hnumeric := isNumeric_charsIn hplain true
  have hspells := spells_number n.negative (digits_cons.mp (hwhole ▸ hplain.whole)).1
    (fun rest hrest => by rw [← List.cons_append, ← hstart, readNumber_charsIn hplain hbroken true hrest])
    (hstart ▸ hnumeric) rfl
  have hall : ∀ d ∈ signChars n.negative ++ n.charsIn true, IsNumeric d :=
    List.forall_mem_append.mpr ⟨isNumeric_signChars _, hnumeric⟩
  have hvalue : floatOf n = .ofMagnitude false x.magnitude := by
    rw [floatOf, Binary64.ofDecimal_eq, hm]
  rw [← hstart, hvalue] at hspells
  rw [← hchars]
  refine ⟨_, hspells, ?_, ?_, .inl fun hmem => not_isNumeric _ (by decide) (hall _ hmem)⟩
  · rw [hneg]
    have hself := Binary64.ofMagnitude_self x
    cases hsign : x.isNegative with
    | true =>
      rw [hsign, ← Binary64.negate_ofMagnitude x.magnitude_lt] at hself
      exact congrArg (fun x => Except.ok (Literal.scalar (.float x))) hself
    | false =>
      rw [hsign] at hself
      exact congrArg (fun x => Except.ok (Literal.scalar (.float x))) hself
  · split_ifs <;> (rintro s ⟨⟩)

theorem writes_word {v : Scalar} (h : (v, t) ∈ [(.null, "None".toList), (.bool true, "True".toList),
    (.bool false, "False".toList)]) : ∃ e, Writes v t e := by
  simp only [List.mem_cons, Prod.mk.injEq, List.not_mem_nil, or_false] at h
  obtain ⟨rfl, rfl⟩ | ⟨rfl, rfl⟩ | ⟨rfl, rfl⟩ := h
  all_goals
    refine ⟨_, spells_word (by decide) (by rfl) rfl, rfl, ?_, .inl (by decide)⟩
    nofun

theorem writes_points (ps : List Point) : ∃ e, Writes (.ofPoints ps) (quotedPoints ps) e := by
  obtain ⟨q, hq, hquoted, -⟩ := exists_quotedPoints ps
  rw [hquoted]
  exact ⟨_, spells_quoted hq ps, rfl, nofun, .inr ⟨ps, q, rfl, hq, rfl⟩⟩

theorem exists_writes {v : Scalar} {t : String} (h : v.toValue.written = .ok t)
    (hf : ∀ x, v = .float x → x.isFinite = true) : ∃ e, Writes v t.toList e := by
  cases v with
  | null =>
    cases h
    exact writes_word (by simp)
  | bool b =>
    cases h
    cases b <;> exact writes_word (by simp [Value.boolText])
  | int n =>
    obtain ⟨hlen, rfl⟩ := Value.intText_eq_ok.mp h
    exact writes_int hlen
  | float x =>
    have hfinite := hf x rfl
    have hnan : x.isNaN = false ∧ x.isInfinite = false := by
      rw [Binary64.isFinite, decide_eq_true_eq] at hfinite
      simp only [Binary64.isNaN, Binary64.isInfinite, decide_eq_false_iff_not, beq_eq_false_iff_ne]
      omega
    cases h
    rw [floatText, hnan.1, hnan.2]
    simp only [Bool.false_eq_true, if_false, String.toList_ofList]
    exact writes_float hfinite
  | text s =>
    cases h
    have hwrites := writes_points (points (.inl s))
    rw [Scalar.ofPoints, ofPoints_points] at hwrites
    rwa [quoted, String.toList_ofList]
  | broken t =>
    cases h
    have hwrites := writes_points (points (.inr t))
    rw [Scalar.ofPoints, ofPoints_points] at hwrites
    rwa [String.toList_ofList]

/-! ## Calls -/

/-- The characters of arguments, divided by commas, and of the closing bracket. -/
def closedChars : List (List Char) → List Char
  | [] => [')']
  | [t] => t ++ [')']
  | t :: ts => t ++ ',' :: ' ' :: closedChars ts

/-- The characters of a call. -/
def callChars (f : List Char) (ts : List (List Char)) : List Char := f ++ '(' :: closedChars ts

theorem closedChars_eq (ts : List (List Char)) : closedChars ts = [',', ' '].intercalate ts ++ [')'] := by
  induction ts using closedChars.induct with
  | case1 => rfl
  | case2 t => simp [closedChars]
  | case3 t ts hne ih =>
    obtain ⟨t', ts, rfl⟩ := List.exists_cons_of_ne_nil (show ts ≠ [] from hne)
    rw [closedChars.eq_3 _ _ hne, ih, List.intercalate_cons_cons]
    simp

variable {f : List Char} {ts : List (List Char)} {es : List Expr}

theorem forall_of_forall₂ {α β : Type} {R : α → β → Prop} {P : α → Prop} {as : List α} {bs : List β}
    (h : List.Forall₂ R as bs) (hP : ∀ a b, R a b → P a) : ∀ a ∈ as, P a := by
  induction h with
  | nil => exact List.forall_mem_nil P
  | cons hab _ ih => exact List.forall_mem_cons.mpr ⟨hP _ _ hab, ih⟩

theorem length_le_closedChars (ts : List (List Char)) : ts.length ≤ (closedChars ts).length := by
  induction ts using closedChars.induct with
  | case1 => exact Nat.zero_le _
  | case2 t => simp [closedChars]
  | case3 t ts hne ih =>
    rw [closedChars.eq_3 _ _ hne]
    simp only [List.length_cons, List.length_append]
    omega

theorem not_mem_closedChars (hc : c ∉ [')', ',', ' ']) (h : ∀ t ∈ ts, c ∉ t) : c ∉ closedChars ts := by
  simp only [List.mem_cons, List.not_mem_nil, or_false, not_or] at hc
  induction ts using closedChars.induct with
  | case1 => simp [closedChars, hc]
  | case2 t => simpa [closedChars, hc] using h
  | case3 t ts hne ih =>
    rw [List.forall_mem_cons] at h
    rw [closedChars.eq_3 _ _ hne]
    simp [hc, h.1, ih h.2]

/-- What stands in no argument stands nowhere in a call. -/
theorem not_mem_callChars (hname : AsciiName f) (hc : c ∈ ['\r', '\x00']) (h : ∀ t ∈ ts, c ∉ t) :
    c ∉ callChars f ts := by
  have hall : ∀ d ∈ ['\r', '\x00'], isAsciiContinue d = false ∧ d ∉ [')', ',', ' '] ∧ d ≠ '(' := by decide
  have hother := hall c hc
  rw [callChars, List.mem_append, List.mem_cons]
  rintro (hmem | hmem | hmem)
  · exact hname.not_mem hother.1 hmem
  · exact hother.2.2 hmem
  · exact not_mem_closedChars hother.2.1 h hmem

theorem lexes_closedChars (h : List.Forall₂ Spells ts es) :
    ∃ tss, List.Forall₂ Operand tss es ∧ Lexes [")"] (closedChars ts) (closedTokens tss) := by
  have hclose : Lexes [")"] [')'] [.op ")"] := .op (by decide) rfl rfl rfl .nil
  induction h with
  | nil => exact ⟨[], .nil, hclose⟩
  | @cons t e ts es ht hts ih =>
    obtain ⟨tokens, htokens, hoperand⟩ := ht.operand
    obtain ⟨tss, hoperands, hlex⟩ := ih
    obtain _ | ⟨t', ts⟩ := ts
    · cases hts
      exact ⟨[tokens], .cons hoperand .nil, htokens _ _ _ (stops_cons (.inr rfl)) hclose⟩
    · obtain _ | ⟨tokens', tss⟩ := tss
      · cases hts
        cases hoperands
      · refine ⟨tokens :: tokens' :: tss, .cons hoperand hoperands, ?_⟩
        exact htokens _ _ _ (stops_cons (.inl rfl)) (.op (by decide) rfl rfl rfl hlex.space)

/-- A text that starts with a name and stays on one line is read from its start. -/
theorem lex_of_lexes {tokens : List Token} (hname : AsciiName f) (hreturn : '\r' ∉ f ++ cs)
    (h : Lexes [] (f ++ cs) tokens) : lex (f ++ cs) = some tokens := by
  have hstarts : lineStarts false (f ++ cs) = true := by
    obtain ⟨c, ds, rfl, hc⟩ := hname.exists_cons
    have hother : ∀ d ∈ [' ', '\t', '\x0c', '\\'], isAsciiStart d = false := by decide
    have hne : ∀ d ∈ [' ', '\t', '\x0c', '\\'], c ≠ d := by
      rintro d hd rfl
      rw [hother c hd] at hc
      cases hc
    simp only [List.forall_mem_cons] at hne
    simp [lineStarts, hne]
  simp only [lex, unifyLines_eq_self hreturn, hstarts, if_true]
  exact h _ (Nat.lt_succ_self _)

/-- **A call of a name with literals is parsed as it is written.** -/
theorem parse_callChars (hname : AsciiName f) (hkeyword : String.ofList f ∉ keywords)
    (h : List.Forall₂ Spells ts es) :
    parse (callChars f ts) = some (.call (.name (String.ofList f)) es false) := by
  obtain ⟨tss, hoperands, hlex⟩ := lexes_closedChars h
  have hreturn : '\r' ∉ callChars f ts :=
    not_mem_callChars hname (by decide) (forall_of_forall₂ h fun _ _ ht => ht.noReturn)
  have hends : WordEnds ('(' :: closedChars ts) := by
    rintro _ ⟨⟩
    decide
  have htokens : lex (callChars f ts) = some (callTokens (String.ofList f) tss) :=
    lex_of_lexes hname hreturn (.name hname (wordToken?_name hname hkeyword) hends
      (.op (by decide) rfl rfl rfl hlex))
  refine parse_call hoperands htokens ?_
  have hlen := length_le_closedChars ts
  rw [hoperands.length_eq, ← h.length_eq, callChars, List.length_append, List.length_cons]
  omega

/-- A name is parsed as itself. -/
theorem parse_name (hname : AsciiName f) (hkeyword : String.ofList f ∉ keywords) :
    parse f = some (.name (String.ofList f)) := by
  have hlex := lex_of_lexes hname (by rw [List.append_nil]; exact hname.not_mem (by decide))
    (.name hname (wordToken?_name hname hkeyword) (fun _ h => by cases h) .nil)
  rw [List.append_nil] at hlex
  exact Operand.parse (.plain rfl) hlex

end Expression

end Gabarit
