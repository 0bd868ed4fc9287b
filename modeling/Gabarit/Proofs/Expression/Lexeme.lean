import Gabarit.Expression.Token
import Gabarit.Proofs.Artifact.Numeral
import Gabarit.Proofs.Text.Identifier
import Gabarit.Proofs.Text.Quoted

/-!
# Tokens of written texts

What is written for names, numbers and texts is read as one token each.

* `Stops`: what may follow an operand in a call;
* `readNumber_numeralChars`, `readNumber_charsIn`: integers and floating-point numbers;
* `readQuoted_escaped`: texts between quotes;
* `readWord_name`: names;
* **`Lexes`**: the tokens of a text, with one lemma for each kind of token;
* `Tokens`: the tokens of what is written for an operand.
-/

namespace Gabarit.Expression

open Text

variable {q c : Char} {cs rest : List Char}

/-- The text goes on with a comma or a closing bracket, if it goes on. -/
def Stops (rest : List Char) : Prop := ∀ c ∈ rest.head?, c = ',' ∨ c = ')'

theorem stops_cons (h : c = ',' ∨ c = ')') : Stops (c :: rest) := by
  rintro _ ⟨⟩
  exact h

/-! ## Numbers -/

theorem isDigit_eq (c : Char) : isDigit c = c.isDigit := by
  cases h : c.isDigit with
  | true => rw [isDigit, asciiDigit?_of_isDigit h, Option.isSome_some]
  | false => rw [isDigit, asciiDigit?_eq_none h, Option.isSome_none]

theorem readDigits_append {ds : List Char} (h : Digits ds) (hne : ds ≠ [])
    (hrest : ∀ c ∈ rest.head?, c.isDigit = false ∧ c ≠ '_') (fuel : ℕ) :
    readDigits isDigit (fuel + 1) (ds ++ rest) = some (ds, rest) := by
  have hdigits : ∀ d ∈ ds, isDigit d = true := fun d hd => (isDigit_eq d).trans (h d hd)
  have hstop : rest.takeWhile isDigit = [] ∧ rest.dropWhile isDigit = rest := by
    obtain _ | ⟨c, rest⟩ := rest
    · exact ⟨rfl, rfl⟩
    · have hc := (hrest c rfl).1
      rw [← isDigit_eq] at hc
      simp [hc]
  unfold readDigits
  dsimp only
  rw [List.takeWhile_append_of_pos hdigits, List.dropWhile_append_of_pos hdigits, hstop.1, hstop.2,
    List.append_nil, if_neg (by simpa using hne)]
  split
  · exact absurd rfl (hrest _ rfl).2
  · rfl

/-- A number in base ten goes on with a point, an exponent, or what follows an operand. -/
def Breaks (rest : List Char) : Prop := ∀ c ∈ rest.head?, c ∈ ['.', 'e', ',', ')']

theorem Stops.breaks (h : Stops rest) : Breaks rest := by
  intro c hc
  obtain rfl | rfl := h c hc <;> decide

theorem breaks_char : ∀ c ∈ ['.', 'e', ',', ')'], c.isDigit = false ∧ c ≠ '_' ∧
    ¬(c = 'x' ∨ c = 'X') ∧ ¬(c = 'o' ∨ c = 'O') ∧ ¬(c = 'b' ∨ c = 'B') := by
  decide

theorem Breaks.readDigits {ds : List Char} (h : Digits ds) (hne : ds ≠ []) (hrest : Breaks rest) (fuel : ℕ) :
    readDigits isDigit (fuel + 1) (ds ++ rest) = some (ds, rest) :=
  readDigits_append h hne (fun c hc => ⟨(breaks_char c (hrest c hc)).1, (breaks_char c (hrest c hc)).2.1⟩) fuel

theorem readNumber_decimal {whole : List Char} (h : Digits whole) (hne : whole ≠ []) (hrest : Breaks rest) :
    readNumber (whole ++ rest) = readDecimal whole rest := by
  have hdecimal : readNumber.decimal (whole ++ rest) = readDecimal whole rest := by
    rw [readNumber.decimal, hrest.readDigits h hne]
    rfl
  obtain ⟨d, ds, rfl⟩ := List.exists_cons_of_ne_nil hne
  have hd := (digits_cons.mp h).1
  unfold readNumber
  split
  · rename_i hpoint
    rw [List.cons_append, List.cons.injEq] at hpoint
    rw [hpoint.1] at hd
    cases hd
  · rename_i c _ hzero
    rw [List.cons_append, List.cons.injEq] at hzero
    have hbase : ¬(c = 'x' ∨ c = 'X') ∧ ¬(c = 'o' ∨ c = 'O') ∧ ¬(c = 'b' ∨ c = 'B') := by
      obtain _ | ⟨d', ds⟩ := ds
      · rw [List.nil_append] at hzero
        exact (breaks_char c (hrest c (by rw [hzero.2]; rfl))).2.2
      · rw [List.cons_append, List.cons.injEq] at hzero
        have hc := (digits_cons.mp (digits_cons.mp h).2).1
        rw [hzero.2.1] at hc
        refine ⟨?_, ?_, ?_⟩ <;> (rintro (rfl | rfl) <;> cases hc)
    rw [if_neg hbase.1, if_neg hbase.2.1, if_neg hbase.2.2, hdecimal]
  · exact hdecimal

theorem Stops.numberEnds (h : Stops rest) : numberEnds rest = true := by
  obtain _ | ⟨c, rest⟩ := rest
  · rfl
  · obtain rfl | rfl := h c rfl <;> rfl

theorem Stops.not_imaginary (h : Stops rest) : ∀ c ∈ rest.head?, ¬(c = 'j' ∨ c = 'J') := by
  intro c hc
  obtain rfl | rfl := h c hc <;> decide

theorem readDecimal_whole (whole : List Char) {exponent : Option (Bool × List Char)}
    (hpoint : '.' ∉ cs.head?) (hread : readExponent cs = some (exponent, rest)) (hrest : Stops rest) :
    readDecimal whole cs = readDecimal.finish whole false [] exponent rest := by
  have hend := hrest.numberEnds
  have hj := hrest.not_imaginary
  unfold readDecimal
  split
  · exact absurd rfl hpoint
  · obtain _ | ⟨c, rest⟩ := rest
    · simp [hread]
    · simp [hread, hend, hj c rfl]

/-- So does a number with digits after its point. -/
theorem readDecimal_fraction (whole : List Char) {frac : List Char} (h : Digits frac) (hne : frac ≠ [])
    {exponent : Option (Bool × List Char)} (hbreaks : Breaks cs)
    (hread : readExponent cs = some (exponent, rest)) (hrest : Stops rest) :
    readDecimal whole ('.' :: (frac ++ cs)) = readDecimal.finish whole true frac exponent rest := by
  have hend := hrest.numberEnds
  have hj := hrest.not_imaginary
  have hdigits := hbreaks.readDigits h hne
  obtain ⟨d, ds, rfl⟩ := List.exists_cons_of_ne_nil hne
  have hd := (digits_cons.mp h).1
  rw [← isDigit_eq] at hd
  rw [List.cons_append] at hdigits ⊢
  obtain _ | ⟨c, rest⟩ := rest
  · simp [readDecimal, hd, hdigits, hread]
  · simp [readDecimal, hd, hdigits, hread, hend, hj c rfl]

theorem Stops.readExponent (h : Stops rest) : readExponent rest = some (none, rest) := by
  obtain _ | ⟨c, rest⟩ := rest
  · rfl
  · have hc : ¬(c = 'e' ∨ c = 'E') := by obtain rfl | rfl := h c rfl <;> decide
    rw [Expression.readExponent, if_neg hc]

theorem Stops.not_point (h : Stops rest) : '.' ∉ rest.head? := by
  intro hc
  obtain hc | hc := h _ hc <;> cases hc

/-- An integer is read from its digits. -/
theorem readNumber_numeralChars {n : ℕ} (h : (numeralChars n).length ≤ digitLimit) (hrest : Stops rest) :
    readNumber (numeralChars n ++ rest) = some (.int n, rest) := by
  rw [readNumber_decimal (digits_numeralChars n) (numeralChars_ne_nil n) hrest.breaks,
    readDecimal_whole _ hrest.not_point hrest.readExponent hrest, readDecimal.finish, if_neg (by simp)]
  obtain rfl | hn := eq_or_ne n 0
  · rfl
  · obtain ⟨c, cs, hchars, hc⟩ := numeralChars_head hn
    rw [if_neg (by rw [hchars]; simpa using hc), if_neg (by omega), numeralValue_numeralChars]

theorem readExponent_exponentIn (plus : Bool) {exponent : Option (Bool × List Char)}
    (h : ∀ e ∈ exponent, e.2 ≠ [] ∧ Digits e.2) (hrest : Stops rest) :
    readExponent (Artifact.exponentIn plus exponent ++ rest) = some (exponent, rest) := by
  cases exponent with
  | none => exact hrest.readExponent
  | some e =>
    obtain ⟨negative, es⟩ := e
    obtain ⟨hne, hes⟩ := h _ rfl
    have hread (fuel : ℕ) := hrest.breaks.readDigits hes hne fuel
    obtain ⟨d, ds, rfl⟩ := List.exists_cons_of_ne_nil hne
    have hd := (digits_cons.mp hes).1
    have hsign : d ≠ '+' ∧ d ≠ '-' := by
      constructor <;> (rintro rfl; cases hd)
    rw [← isDigit_eq] at hd
    cases negative <;> cases plus <;> simp_all [Artifact.exponentIn, Expression.readExponent]

theorem Breaks.exponentIn (plus : Bool) (exponent : Option (Bool × List Char)) (hrest : Stops rest) :
    Breaks (Artifact.exponentIn plus exponent ++ rest) := by
  cases exponent with
  | none => exact hrest.breaks
  | some e =>
    rintro c ⟨⟩
    decide

/-- The value of a numeral that is read as a floating-point number. -/
def floatOf (n : Artifact.Numeral) : Binary64 := .ofDecimal false (numeralValue n.digits) n.scale

/-- A floating-point number is read from the characters of its numeral. -/
theorem readNumber_charsIn {n : Artifact.Numeral} (h : n.Plain) (hbroken : n.isInteger = false)
    (plus : Bool) (hrest : Stops rest) :
    readNumber (n.charsIn plus ++ rest) = some (.float (floatOf n), rest) := by
  obtain ⟨negative, whole, frac, exponent⟩ := n
  obtain ⟨hwhole, ⟨c, cs, rfl, -⟩, hfrac, hexponent⟩ := h
  dsimp only at hwhole hfrac hexponent
  have hread := readExponent_exponentIn plus hexponent hrest
  have hbreaks := Breaks.exponentIn plus exponent hrest
  have hfloat : floatOf ⟨negative, c :: cs, frac, exponent⟩ =
      decimalFloat (c :: cs) (frac.getD []) exponent := by
    cases exponent <;> rfl
  rw [hfloat, Artifact.Numeral.charsIn, List.append_assoc, List.append_assoc]
  dsimp only
  cases frac with
  | none =>
    have hsome : exponent.isSome = true := by
      cases exponent with
      | none => cases hbroken
      | some e => rfl
    have hpoint : '.' ∉ (Artifact.exponentIn plus exponent ++ rest).head? := by
      obtain ⟨e, rfl⟩ := Option.isSome_iff_exists.mp hsome
      rintro ⟨⟩
    rw [Artifact.Numeral.fracChars, List.nil_append,
      readNumber_decimal hwhole (List.cons_ne_nil c cs) hbreaks, readDecimal_whole _ hpoint hread hrest,
      readDecimal.finish, if_pos (by rw [hsome, Bool.or_true])]
    rfl
  | some fs =>
    obtain ⟨hne, hfs⟩ := hfrac fs rfl
    have hpoint : Breaks ('.' :: (fs ++ (Artifact.exponentIn plus exponent ++ rest))) := by
      rintro _ ⟨⟩
      decide
    rw [Artifact.Numeral.fracChars, List.cons_append (a := '.'),
      readNumber_decimal hwhole (List.cons_ne_nil c cs) hpoint,
      readDecimal_fraction _ hfs hne hbreaks hread hrest, readDecimal.finish, if_pos (Bool.true_or _)]
    rfl

/-! ## Texts and words -/

/-- The character stands for itself between quotes `q` on one line. -/
def Inside (q c : Char) : Prop := c ≠ q ∧ c ≠ '\n' ∧ c ≠ '\\'

theorem readLineBody_inside {ds : List Char} (h : ∀ d ∈ ds, Inside q d) (cs : List Char) :
    readLineBody q (ds ++ cs) = (readLineBody q cs).map fun (body, after) => (ds ++ body, after) := by
  induction ds with
  | nil => simp
  | cons d ds ih =>
    obtain ⟨⟨hq, hline, hslash⟩, hds⟩ := List.forall_mem_cons.mp h
    rw [List.cons_append, readLineBody, if_neg hq, if_neg (by simp [hline, hslash]), ih hds,
      Option.map_map]
    · rfl
    · rintro c rest rfl
      exact absurd rfl hslash

theorem inside_of_hexDigit (hq : IsQuote q) {d : Char} (h : (hexDigit? d).isSome) : Inside q d := by
  refine ⟨?_, ?_, ?_⟩
  · rintro rfl
    obtain rfl | rfl := hq <;> cases h
  · rintro rfl
    cases h
  · rintro rfl
    cases h

theorem readLineBody_escapePoint (hq : IsQuote q) (p : Point) (cs : List Char) :
    readLineBody q (escapePoint q p ++ cs) =
      (readLineBody q cs).map fun (body, after) => (escapePoint q p ++ body, after) := by
  obtain ⟨c, -, ⟨hne, hplain, hprint⟩, hc⟩ | ⟨c, -, -, hc⟩ | ⟨letter, ds, hc, hletter, hds⟩ :=
    escapePoint_cases q p
  · have hline : c ≠ '\n' := by
      rintro rfl
      cases hprint
    rw [hc, readLineBody_inside (List.forall_mem_singleton.mpr ⟨hne, hline, hplain⟩)]
  · rw [hc]
    rfl
  · rw [hc, List.cons_append, List.cons_append, readLineBody,
      readLineBody_inside fun d hd => inside_of_hexDigit hq (hds d hd), Option.map_map]
    rfl

theorem readLineBody_eq {body : List Char} (h : readLineBody q cs = some (body, rest)) :
    cs = body ++ q :: rest := by
  induction cs using readLineBody.induct q generalizing body with
  | case1 => cases h
  | case2 c cs ih =>
    rw [readLineBody, Option.map_eq_some_iff] at h
    obtain ⟨⟨body, after⟩, hread, hpair⟩ := h
    cases hpair
    rw [ih hread]
    rfl
  | case3 cs hslash =>
    rw [readLineBody.eq_3 _ _ _ hslash, if_pos rfl] at h
    cases h
    rfl
  | case4 c cs hslash hq hc =>
    rw [readLineBody.eq_3 _ _ _ hslash, if_neg hq, if_pos hc] at h
    cases h
  | case5 c cs hslash hq hc ih =>
    rw [readLineBody.eq_3 _ _ _ hslash, if_neg hq, if_neg hc, Option.map_eq_some_iff] at h
    obtain ⟨⟨body, after⟩, hread, hpair⟩ := h
    cases hpair
    rw [ih hread]
    rfl

theorem readLineBody_escaped (hq : IsQuote q) (ps : List Point) (rest : List Char) :
    readLineBody q (escaped q ps ++ q :: rest) = some (escaped q ps, rest) := by
  induction ps with
  | nil =>
    have hslash : q ≠ '\\' := by obtain rfl | rfl := hq <;> decide
    rw [escaped, List.flatMap_nil, List.nil_append, readLineBody, if_pos rfl]
    rintro c rest rfl
    exact absurd rfl hslash
  | cons p ps ih =>
    rw [escaped, List.flatMap_cons, List.append_assoc, readLineBody_escapePoint hq, ← escaped, ih]
    rfl

theorem readQuoted_line {marks : QuoteMarks} (h : ∀ a b, cs.take 2 = [a, b] → ¬(a = q ∧ b = q)) :
    readQuoted marks q cs = readQuoted.line marks q cs := by
  unfold readQuoted
  split
  · rename_i a b rest
    rw [if_neg (h a b rfl)]
  · rfl

theorem escapePoint_head (hq : IsQuote q) (p : Point) : ∃ d ds, escapePoint q p = d :: ds ∧ d ≠ q := by
  have hslash : '\\' ≠ q := by obtain rfl | rfl := hq <;> decide
  obtain ⟨c, -, ⟨hne, -, -⟩, hc⟩ | ⟨c, -, -, hc⟩ | ⟨letter, ds, hc, -, -⟩ := escapePoint_cases q p
  · exact ⟨c, [], hc, hne⟩
  · exact ⟨_, _, hc, hslash⟩
  · exact ⟨_, _, hc, hslash⟩

/-- **A text is read from what is written for it between quotes.** -/
theorem readQuoted_escaped (hq : IsQuote q) (ps : List Point) (hrest : q ∉ rest.head?) :
    readQuoted {} q (escaped q ps ++ q :: rest) = some (.text ps, rest) := by
  rw [readQuoted_line]
  · simp [readQuoted.line, readLineBody_escaped hq, quotedToken?, unescape_escaped hq]
  · rintro a b htake ⟨rfl, rfl⟩
    obtain _ | ⟨p, ps⟩ := ps
    · obtain _ | ⟨d, rest⟩ := rest
      · cases htake
      · cases htake
        exact hrest rfl
    · obtain ⟨d, ds, hc, hd⟩ := escapePoint_head hq p
      rw [escaped, List.flatMap_cons, hc] at htake
      exact hd (List.cons.inj htake).1

/-- A character that neither continues a word nor starts a text ends a word. -/
def WordEnds (rest : List Char) : Prop :=
  ∀ c ∈ rest.head?, isWordChar c = false ∧ c ≠ '\'' ∧ c ≠ '"'

theorem isWordChar_eq {c : Char} (h : isAsciiContinue c = true) : isWordChar c = true := by
  rw [isWordChar, h, Bool.true_or]

theorem isDigit_of_isAsciiStart {c : Char} (h : isAsciiStart c = true) : isDigit c = false := by
  rw [isDigit, asciiDigit?, if_neg]
  · rfl
  · simp only [isAsciiStart, Bool.or_eq_true, Bool.and_eq_true, decide_eq_true_eq, beq_iff_eq] at h
    omega

/-- **A name is read up to a character of another kind.** -/
theorem readWord_name (h : AsciiName cs) (hrest : WordEnds rest) :
    readWord (cs ++ rest) = (wordToken? cs).map (·, rest) := by
  have hword : ∀ c ∈ cs, isWordChar c = true := fun c hc => isWordChar_eq (h.isAsciiContinue c hc)
  unfold readWord
  rw [List.takeWhile_append_of_pos hword, List.dropWhile_append_of_pos hword]
  obtain _ | ⟨c, rest⟩ := rest
  · simp
  · obtain ⟨hc, hsingle, hdouble⟩ := hrest c rfl
    simp [hc, hsingle, hdouble]

theorem wordToken?_name (h : AsciiName cs) (hk : String.ofList cs ∉ keywords) :
    wordToken? cs = some (.name (String.ofList cs)) := by
  rw [wordToken?, if_neg (by simpa using hk), if_pos h.isIdentifier, h.normalize]

/-! ## Tokens in order -/

/-- A quote starts a text. -/
theorem lexFrom_quoted (hq : IsQuote q) (fuel : ℕ) (pending : List String) (cs : List Char) :
    lexFrom (fuel + 1) pending (q :: cs) =
      (readQuoted {} q cs).bind fun (t, after) => (lexFrom fuel pending after).map (t :: ·) := by
  rw [lexFrom.eq_def]
  obtain rfl | rfl := hq <;>
  · cases hread : readQuoted {} _ cs <;> simp [hread, isDigit, asciiDigit?]

/-- The text has these tokens, where `pending` brackets are still to be closed. -/
def Lexes (pending : List String) (cs : List Char) (ts : List Token) : Prop :=
  ∀ fuel, cs.length < fuel → lexFrom fuel pending cs = some ts

namespace Lexes

variable {pending pending' : List String} {t : Token} {ts : List Token}

theorem nil : Lexes [] [] [] := by
  intro fuel h
  obtain _ | fuel := fuel
  · exact absurd h (Nat.not_lt_zero _)
  · rfl

/-- One step of the reading: what is read at the start, and the rest. -/
theorem step {f : List Token → List Token}
    (hstep : ∀ fuel, lexFrom (fuel + 1) pending cs = (lexFrom fuel pending' rest).map f)
    (hlen : rest.length < cs.length) (h : Lexes pending' rest ts) : Lexes pending cs (f ts) := by
  intro fuel hfuel
  obtain _ | fuel := fuel
  · exact absurd hfuel (Nat.not_lt_zero _)
  · rw [hstep, h fuel (by omega)]
    rfl

theorem space (h : Lexes pending rest ts) : Lexes pending (' ' :: rest) ts := by
  refine step (f := id) (fun fuel => ?_) (Nat.lt_succ_self _) h
  rw [lexFrom.eq_def]
  simp

theorem quoted (hq : IsQuote q) (hread : readQuoted {} q cs = some (t, rest))
    (hlen : rest.length ≤ cs.length) (h : Lexes pending rest ts) : Lexes pending (q :: cs) (t :: ts) :=
  step (fun fuel => by rw [lexFrom_quoted hq, hread, Option.bind_some]) (Nat.lt_succ_of_le hlen) h

theorem number (hc : c.isDigit = true) (hread : readNumber (c :: cs) = some (t, rest))
    (hlen : rest.length ≤ cs.length) (h : Lexes pending rest ts) : Lexes pending (c :: cs) (t :: ts) := by
  have hdigit : isDigit c = true := (isDigit_eq c).trans hc
  have hother : ∀ d ∈ [' ', '\t', '\x0c', '\n', '#', '\\'], d.isDigit = false := by decide
  have hne : ∀ d ∈ [' ', '\t', '\x0c', '\n', '#', '\\'], c ≠ d := by
    rintro d hd rfl
    rw [hother c hd] at hc
    cases hc
  simp only [List.forall_mem_cons] at hne
  refine step (fun fuel => ?_) (Nat.lt_succ_of_le hlen) h
  rw [lexFrom.eq_def]
  simp [hread, hdigit, hne]

theorem word (hc : isAsciiStart c = true) (hread : readWord (c :: cs) = some (t, rest))
    (hlen : rest.length ≤ cs.length) (h : Lexes pending rest ts) : Lexes pending (c :: cs) (t :: ts) := by
  have hword : isWordChar c = true := isWordChar_eq (isAsciiContinue_of_start hc)
  have hdigit : isDigit c = false := isDigit_of_isAsciiStart hc
  have hother : ∀ d ∈ [' ', '\t', '\x0c', '\n', '#', '\\', '.', '\'', '"'], isAsciiStart d = false := by
    decide
  have hne : ∀ d ∈ [' ', '\t', '\x0c', '\n', '#', '\\', '.', '\'', '"'], c ≠ d := by
    rintro d hd rfl
    rw [hother c hd] at hc
    cases hc
  simp only [List.forall_mem_cons] at hne
  refine step (fun fuel => ?_) (Nat.lt_succ_of_le hlen) h
  rw [lexFrom.eq_def]
  simp [hread, hdigit, hword, hne]

/-- An operator of one character. -/
theorem op {s : String} (hc : c ∈ ['(', ')', ',', '-'])
    (hfind : operators.find? (fun s => s.toList.isPrefixOf (c :: rest)) = some s) (hs : s.length = 1)
    (htrack : track? pending s = some pending') (h : Lexes pending' rest ts) :
    Lexes pending (c :: rest) (.op s :: ts) := by
  refine step (fun fuel => ?_) (Nat.lt_succ_self _) h
  rw [lexFrom.eq_def]
  simp only [List.mem_cons, List.not_mem_nil, or_false] at hc
  obtain rfl | rfl | rfl | rfl := hc <;>
    simp [hfind, hs, htrack, isDigit, asciiDigit?, isWordChar, isAsciiContinue, isAsciiStart]

theorem name (hname : AsciiName cs) (ht : wordToken? cs = some t) (hrest : WordEnds rest)
    (h : Lexes pending rest ts) : Lexes pending (cs ++ rest) (t :: ts) := by
  have hread := readWord_name hname hrest
  obtain ⟨c, ds, rfl, hc⟩ := hname.exists_cons
  rw [ht, Option.map_some] at hread
  exact word hc hread (by simp) h

end Lexes

/-- The text is read as these tokens before what may follow an operand. -/
def Tokens (cs : List Char) (ts : List Token) : Prop :=
  ∀ pending rest toks, Stops rest → Lexes pending rest toks → Lexes pending (cs ++ rest) (ts ++ toks)

namespace Tokens

variable {t : Token} {ts : List Token}

theorem name (h : AsciiName cs) (ht : wordToken? cs = some t) : Tokens cs [t] := by
  intro pending rest toks hrest hlex
  refine Lexes.name h ht (fun c hc => ?_) hlex
  obtain rfl | rfl := hrest c hc <;> decide

theorem number (hc : c.isDigit = true)
    (hread : ∀ rest, Stops rest → readNumber (c :: (cs ++ rest)) = some (t, rest)) :
    Tokens (c :: cs) [t] := fun _ rest _ hrest hlex =>
  Lexes.number hc (hread rest hrest) (by simp) hlex

theorem quoted (hq : IsQuote q) (ps : List Point) : Tokens (q :: (escaped q ps ++ [q])) [.text ps] := by
  intro pending rest toks hrest hlex
  have hfollow : q ∉ rest.head? := by
    intro hc
    obtain rfl | rfl := hq <;> (obtain h | h := hrest _ hc <;> cases h)
  rw [List.cons_append, List.append_assoc]
  have hlen : rest.length ≤ (escaped q ps ++ q :: rest).length := by
    rw [List.length_append, List.length_cons]
    omega
  exact Lexes.quoted hq (readQuoted_escaped hq ps hfollow) hlen hlex

theorem negative (hc : c.isDigit = true) (h : Tokens (c :: cs) ts) :
    Tokens ('-' :: c :: cs) (.op "-" :: ts) := by
  intro pending rest toks hrest hlex
  have heq : ('=' == c) = false ∧ ('>' == c) = false := by
    constructor <;> (rw [beq_eq_false_iff_ne]; rintro rfl; cases hc)
  refine Lexes.op (by decide) ?_ rfl rfl (h pending rest toks hrest hlex)
  simp [operators, List.find?, List.isPrefixOf, heq]

end Tokens

end Gabarit.Expression
