import Gabarit.Proofs.Expression.Simple
import Gabarit.Proofs.Template.Stages

/-!
# Simple expressions in pipelines

* `quotedBody`: the text after an opening quote, as it is read;
* `PlainlyQuoted`: no quoted text holds its own quote, and no comment a quote or a bar;
* `Passes`: the text goes on after characters that are none of quotes, bars and comment signs, with one lemma
  for each kind of token;
* `lexFrom_step`, `lexFrom_undivided`: one token, and all tokens of a text, without bars;
* **`undivided_of_parse`**: simple expressions are not divided.
-/

namespace Gabarit.Expression

open Text

variable {q c : Char} {cs rest after body : List Char} {t : Token}

/-- The body of a quoted text after its opening quote, and the text after it. -/
def quotedBody (q : Char) (cs : List Char) : Option (List Char × List Char) :=
  if cs.take 2 = [q, q] then readBlockBody q (cs.drop 2) else readLineBody q cs

/-- The line that a text starts with. -/
def firstLine (cs : List Char) : List Char := cs.takeWhile (· ≠ '\n')

/-- The text after its first line. -/
def afterLine (cs : List Char) : List Char := cs.dropWhile (· ≠ '\n')

/-- None of the quoted texts holds its own quote, and no comment holds a quote or a bar. -/
inductive PlainlyQuoted : List Char → Prop
  | nil : PlainlyQuoted []
  | char {c : Char} {cs : List Char} : ¬IsQuote c → c ≠ '#' → PlainlyQuoted cs → PlainlyQuoted (c :: cs)
  | quoted {q : Char} {cs body rest : List Char} : IsQuote q → quotedBody q cs = some (body, rest) →
    q ∉ body → PlainlyQuoted rest → PlainlyQuoted (q :: cs)
  | comment {cs : List Char} : (∀ c ∈ firstLine cs, Neutral c) → PlainlyQuoted (afterLine cs) →
    PlainlyQuoted ('#' :: cs)

/-- Reads what follows the digits of a decimal number, and its point if it has one. -/
def afterDigits (whole : List Char) (point : Bool) (frac cs : List Char) : Option (Token × List Char) := do
  let (exponent, rest) ← readExponent cs
  match rest with
  | c :: r =>
    if c = 'j' ∨ c = 'J' then if numberEnds r then some (.imaginary, r) else none
    else if !numberEnds rest then none
    else readDecimal.finish whole point frac exponent rest
  | [] => readDecimal.finish whole point frac exponent []

/-! ## Characters outside of quotes -/

/-- The character is no quote, no bar and no comment sign. -/
def Calm (c : Char) : Prop := c ∉ ['\'', '"', '|', '#']

instance (c : Char) : Decidable (Calm c) := inferInstanceAs (Decidable (c ∉ ['\'', '"', '|', '#']))

theorem calm_of {p : Char → Bool} (hp : ∀ d ∈ ['\'', '"', '|', '#'], p d = false) (h : p c = true) :
    Calm c := by
  intro hmem
  rw [hp c hmem] at h
  cases h

theorem Calm.neutral (h : Calm c) : Neutral c := by
  simp only [Calm, List.mem_cons, List.not_mem_nil, or_false, not_or] at h
  exact ⟨not_or.mpr ⟨h.1, h.2.1⟩, h.2.2.1⟩

/-- The text goes on after characters that are none of quotes, bars and comment signs. -/
def Passes (cs rest : List Char) : Prop := ∃ used, cs = used ++ rest ∧ ∀ c ∈ used, Calm c

namespace Passes

theorem refl (cs : List Char) : Passes cs cs := ⟨[], rfl, nofun⟩

theorem cons (hc : Calm c) (h : Passes cs rest) : Passes (c :: cs) rest := by
  obtain ⟨used, rfl, hused⟩ := h
  exact ⟨c :: used, rfl, List.forall_mem_cons.mpr ⟨hc, hused⟩⟩

theorem trans (h : Passes cs rest) (h' : Passes rest after) : Passes cs after := by
  obtain ⟨used, rfl, hused⟩ := h
  obtain ⟨used', rfl, hused'⟩ := h'
  exact ⟨used ++ used', (List.append_assoc _ _ _).symm, List.forall_mem_append.mpr ⟨hused, hused'⟩⟩

theorem dropWhile {p : Char → Bool} (hp : ∀ d ∈ ['\'', '"', '|', '#'], p d = false) (cs : List Char) :
    Passes cs (cs.dropWhile p) :=
  ⟨cs.takeWhile p, List.takeWhile_append_dropWhile.symm,
    fun c hc => calm_of hp (List.all_eq_true.mp List.all_takeWhile c hc)⟩

theorem plainlyQuoted (h : Passes cs rest) (hplain : PlainlyQuoted cs) : PlainlyQuoted rest := by
  obtain ⟨used, rfl, hused⟩ := h
  induction used with
  | nil => exact hplain
  | cons c used ih =>
    rw [List.forall_mem_cons] at hused
    cases hplain with
    | char _ _ hplain => exact ih hused.2 hplain
    | quoted hq => exact absurd hq hused.1.neutral.1
    | comment => exact absurd hused.1 (by decide)

theorem undivided (h : Passes cs rest) (hrest : Undivided rest) : Undivided cs := by
  obtain ⟨used, rfl, hused⟩ := h
  rw [Undivided, quoteAfter_neutrals (fun c hc => (hused c hc).neutral) isQuote_none]
  exact hrest

/-! ## Numbers -/

theorem readDigits {p : Char → Bool} (hp : ∀ d ∈ ['\'', '"', '|', '#'], p d = false) {fuel : ℕ}
    {ds : List Char} (h : Expression.readDigits p fuel cs = some (ds, rest)) : Passes cs rest := by
  induction fuel generalizing cs ds with
  | zero => cases h
  | succ fuel ih =>
    unfold Expression.readDigits at h
    dsimp only at h
    have hdrop := dropWhile hp cs
    split_ifs at h
    split at h
    · rename_i r hr
      rw [Option.map_eq_some_iff] at h
      obtain ⟨⟨more, after⟩, hmore, hpair⟩ := h
      cases hpair
      rw [hr] at hdrop
      exact hdrop.trans (cons (by decide) (ih hmore))
    · cases h
      exact hdrop

theorem isDigit_calm : ∀ d ∈ ['\'', '"', '|', '#'], isDigit d = false := by decide

theorem readBased {base : ℕ} (h : Expression.readBased base cs = some (t, rest)) : Passes cs rest := by
  have hdigit : ∀ d ∈ ['\'', '"', '|', '#'],
      ((hexDigit? d).map fun d => decide (d < base)).getD false = false := by
    have hnone : ∀ d ∈ ['\'', '"', '|', '#'], hexDigit? d = none := by decide
    intro d hd
    rw [hnone d hd]
    rfl
  unfold Expression.readBased at h
  dsimp only at h
  rw [Option.bind_eq_some_iff] at h
  obtain ⟨⟨ds, after⟩, hdigits, h⟩ := h
  dsimp only at h
  split_ifs at h
  cases h
  have hpasses := readDigits hdigit hdigits
  split at hpasses
  · exact cons (by decide) hpasses
  · exact hpasses

theorem readExponent {exponent : Option (Bool × List Char)}
    (h : Expression.readExponent cs = some (exponent, rest)) : Passes cs rest := by
  have hdigits {negative : Bool} {r : List Char}
      (h : (Expression.readDigits isDigit (r.length + 1) r).map (fun p => (some (negative, p.1), p.2)) =
        some (exponent, rest)) : Passes r rest := by
    rw [Option.map_eq_some_iff] at h
    obtain ⟨⟨ds, after⟩, hread, hpair⟩ := h
    cases hpair
    exact readDigits isDigit_calm hread
  unfold Expression.readExponent at h
  split at h
  · rename_i c cs
    split_ifs at h with he
    · have hc : Calm c := by obtain rfl | rfl := he <;> decide
      dsimp only at h
      split at h
      · exact cons hc (cons (by decide) (hdigits h))
      · exact cons hc (cons (by decide) (hdigits h))
      · split_ifs at h
        · exact cons hc (hdigits h)
        · cases h
          exact refl _
      · cases h
        exact refl _
    · cases h
      exact refl _
  · cases h
    exact refl _

theorem finish {whole frac : List Char} {point : Bool} {exponent : Option (Bool × List Char)}
    (h : readDecimal.finish whole point frac exponent cs = some (t, rest)) : rest = cs := by
  unfold readDecimal.finish at h
  split_ifs at h <;> cases h <;> rfl

theorem afterDigits {whole frac : List Char} {point : Bool}
    (h : Expression.afterDigits whole point frac cs = some (t, rest)) : Passes cs rest := by
  unfold Expression.afterDigits at h
  obtain ⟨⟨exponent, after⟩, hexponent, h⟩ := Option.bind_eq_some_iff.mp h
  refine (readExponent hexponent).trans ?_
  dsimp only at h
  split at h
  · split_ifs at h with hj
    · cases h
      obtain rfl | rfl := hj
      · exact cons (by decide) (refl _)
      · exact cons (by decide) (refl _)
    · rw [finish h]
      exact refl _
  · rw [finish h]
    exact refl _

theorem readDecimal {whole : List Char} (h : Expression.readDecimal whole cs = some (t, rest)) :
    Passes cs rest := by
  unfold Expression.readDecimal at h
  split at h
  · dsimp only at h
    split_ifs at h
    · obtain ⟨⟨point, frac, after⟩, hfrac, h⟩ := Option.bind_eq_some_iff.mp h
      obtain ⟨⟨ds, after⟩, hdigits, hpair⟩ := Option.map_eq_some_iff.mp hfrac
      cases hpair
      exact cons (by decide) ((readDigits isDigit_calm hdigits).trans (afterDigits h))
    · exact cons (by decide) (afterDigits h)
  · exact afterDigits h

theorem readNumber (h : Expression.readNumber cs = some (t, rest)) : Passes cs rest := by
  have hdecimal {cs : List Char} (h : readNumber.decimal cs = some (t, rest)) : Passes cs rest := by
    unfold readNumber.decimal at h
    rw [Option.bind_eq_some_iff] at h
    obtain ⟨⟨ds, after⟩, hdigits, h⟩ := h
    exact (readDigits isDigit_calm hdigits).trans (readDecimal h)
  unfold Expression.readNumber at h
  split at h
  · exact readDecimal h
  · rename_i c r
    have hbased {a b : Char} (hab : Calm a ∧ Calm b) (hc : c = a ∨ c = b) {base : ℕ}
        (h : Expression.readBased base r = some (t, rest)) : Passes ('0' :: c :: r) rest := by
      have hcalm : Calm c := by
        obtain rfl | rfl := hc
        · exact hab.1
        · exact hab.2
      exact cons (by decide) (cons hcalm (readBased h))
    split_ifs at h with hx ho hb
    · exact hbased (by decide) hx h
    · exact hbased (by decide) ho h
    · exact hbased (by decide) hb h
    · exact hdecimal h
  · exact hdecimal h

end Passes

theorem plainlyQuoted_append {as : List Char} (has : ∀ c ∈ as, Calm c) (h : PlainlyQuoted cs) :
    PlainlyQuoted (as ++ cs) := by
  induction as with
  | nil => exact h
  | cons c as ih =>
    rw [List.forall_mem_cons] at has
    have hcomment : c ≠ '#' := by
      rintro rfl
      exact absurd has.1 (by decide)
    exact .char has.1.neutral.1 hcomment (ih has.2)

/-! ## Quoted texts -/

/-- A text of several lines is followed by three quotes. -/
theorem readBlockBody_eq (h : readBlockBody q cs = some (body, rest)) : cs = body ++ q :: q :: q :: rest := by
  induction cs using readBlockBody.induct q generalizing body with
  | case1 => cases h
  | case2 c cs ih =>
    rw [readBlockBody, Option.map_eq_some_iff] at h
    obtain ⟨⟨body, after⟩, hread, hpair⟩ := h
    cases hpair
    rw [ih hread]
    rfl
  | case3 c cs hslash hclose =>
    rw [readBlockBody.eq_3 _ _ _ hslash, if_pos hclose] at h
    cases h
    obtain ⟨rfl, htake⟩ := hclose
    rw [← List.take_append_drop 2 cs, htake]
    rfl
  | case4 cs hslash hclose =>
    rw [readBlockBody.eq_3 _ _ _ hslash, if_neg hclose, if_pos rfl] at h
    cases h
  | case5 c cs hslash hclose hc ih =>
    rw [readBlockBody.eq_3 _ _ _ hslash, if_neg hclose, if_neg hc, Option.map_eq_some_iff] at h
    obtain ⟨⟨body, after⟩, hread, hpair⟩ := h
    cases hpair
    rw [ih hread]
    rfl

/-- A quoted text that does not hold its quote leaves no quote open. -/
theorem quoteAfter_quotedBody (hq : IsQuote q) (h : quotedBody q cs = some (body, rest)) (hbody : q ∉ body) :
    quoteAfter none (q :: cs) = quoteAfter none rest := by
  unfold quotedBody at h
  split_ifs at h with htriple
  · have hcs := List.take_append_drop 2 cs
    rw [htriple, readBlockBody_eq h] at hcs
    -- the outer two of three quotes are an empty text
    rw [← hcs]
    exact (quoteAfter_quoted hq (List.not_mem_nil) _).trans
      ((quoteAfter_quoted hq hbody _).trans (quoteAfter_quoted hq (List.not_mem_nil) rest))
  · rw [readLineBody_eq h]
    exact quoteAfter_quoted hq hbody rest

theorem readQuoted_eq (marks : QuoteMarks) (q : Char) (cs : List Char) : readQuoted marks q cs =
    (quotedBody q cs).bind fun (body, after) => (quotedToken? marks body).map (·, after) := by
  unfold readQuoted quotedBody
  split
  · rename_i a b rest
    by_cases h : a = q ∧ b = q
    · rw [if_pos h, if_pos (by rw [h.1, h.2]; rfl)]
      rfl
    · rw [if_neg h, if_neg (fun htake => h (by cases htake; exact ⟨rfl, rfl⟩))]
      rfl
  · rename_i hshort
    rw [if_neg]
    · rfl
    · intro htake
      rw [← List.take_append_drop 2 cs, htake] at hshort
      exact hshort _ _ _ rfl

theorem readQuoted_eq_some {marks : QuoteMarks} (h : readQuoted marks q cs = some (t, rest)) :
    ∃ body, quotedBody q cs = some (body, rest) := by
  rw [readQuoted_eq] at h
  obtain ⟨⟨body, after⟩, hbody, h⟩ := Option.bind_eq_some_iff.mp h
  obtain ⟨token, -, hpair⟩ := Option.map_eq_some_iff.mp h
  cases hpair
  exact ⟨body, hbody⟩

/-! ## Tokens in order -/

/-- The text goes on after a token or a comment that leaves a plainly quoted text undivided. -/
def Carried (cs rest : List Char) : Prop :=
  PlainlyQuoted cs → PlainlyQuoted rest ∧ (Undivided rest → Undivided cs)

theorem Passes.carried (h : Passes cs rest) : Carried cs rest :=
  fun hplain => ⟨h.plainlyQuoted hplain, h.undivided⟩

theorem Carried.trans (h : Carried cs rest) (h' : Carried rest after) : Carried cs after := fun hplain =>
  have hrest := h hplain
  have hafter := h' hrest.1
  ⟨hafter.1, hrest.2 ∘ hafter.2⟩

theorem carried_readQuoted (hq : IsQuote q) {marks : QuoteMarks} (h : readQuoted marks q cs = some (t, rest)) :
    Carried (q :: cs) rest := by
  obtain ⟨body, hread⟩ := readQuoted_eq_some h
  intro hplain
  cases hplain with
  | char hne => exact absurd hq hne
  | quoted _ hread' hbody hrest =>
    cases hread.symm.trans hread'
    exact ⟨hrest, fun h => (quoteAfter_quotedBody hq hread hbody).trans h⟩
  | comment => obtain hq | hq := hq <;> cases hq

theorem carried_comment (cs : List Char) : Carried ('#' :: cs) (afterLine cs) := by
  intro hplain
  cases hplain with
  | char _ hne => exact absurd rfl hne
  | quoted hq => obtain hq | hq := hq <;> cases hq
  | comment hline hrest =>
    refine ⟨hrest, fun h => ?_⟩
    have hsign : Neutral '#' := by
      unfold Neutral IsQuote
      decide
    have hsplit : cs = firstLine cs ++ afterLine cs := List.takeWhile_append_dropWhile.symm
    rw [Undivided, quoteAfter_neutral hsign isQuote_none, hsplit, quoteAfter_neutrals hline isQuote_none]
    exact h

theorem carried_readWord (h : readWord cs = some (t, rest)) : Carried cs rest := by
  have hword : Passes cs (cs.dropWhile isWordChar) := .dropWhile (by decide) cs
  have hplain (h : (wordToken? (cs.takeWhile isWordChar)).map (·, cs.dropWhile isWordChar) = some (t, rest)) :
      Carried cs rest := by
    obtain ⟨token, -, hpair⟩ := Option.map_eq_some_iff.mp h
    cases hpair
    exact hword.carried
  unfold readWord at h
  dsimp only at h
  split at h
  · rename_i q r hr
    split_ifs at h with hq
    · split at h
      · rw [hr] at hword
        exact hword.carried.trans (carried_readQuoted hq h)
      · exact hplain h
    · exact hplain h
  · exact hplain h

/-- Operators without a bar are calm. -/
theorem calm_of_mem_operators {s : String} (h : s ∈ operators) (hbar : Token.isBar (.op s) = false) :
    ∀ c ∈ s.toList, Calm c := by
  have hall : ∀ s ∈ operators, Token.isBar (.op s) = true ∨ ∀ c ∈ s.toList, Calm c := by decide
  refine (hall s h).resolve_left ?_
  rw [hbar]
  exact Bool.false_ne_true

theorem passes_operator {s : String} (h : operators.find? (fun s => s.toList.isPrefixOf cs) = some s)
    (hbar : Token.isBar (.op s) = false) : Passes cs (cs.drop s.length) := by
  have hstart := List.find?_some h
  obtain ⟨used, rfl⟩ := List.isPrefixOf_iff_prefix.mp hstart
  refine ⟨s.toList, ?_, calm_of_mem_operators (List.mem_of_find?_eq_some h) hbar⟩
  rw [← String.length_toList, List.drop_left]

theorem bars_cons_eq_zero {ts : List Token} (h : bars (t :: ts) = 0) : t.isBar = false ∧ bars ts = 0 := by
  rw [bars, List.countP_cons] at h
  cases ht : t.isBar
  · rw [ht] at h
    exact ⟨rfl, h⟩
  · rw [ht] at h
    cases h

/-- After a token, or what is skipped between tokens, the text goes on with tokens without bars. -/
def Resumes (fuel : ℕ) (cs : List Char) : Prop :=
  ∃ pending after ts, lexFrom fuel pending after = some ts ∧ bars ts = 0 ∧ Carried cs after

/-- Each step of reading tokens without bars resumes. -/
theorem lexFrom_step {fuel : ℕ} {pending : List String} {ts : List Token}
    (h : lexFrom (fuel + 1) pending (c :: rest) = some ts) (hbars : bars ts = 0) : Resumes fuel (c :: rest) := by
  have htoken {t : Token} {after : List Char} {pending : List String}
      (h : (lexFrom fuel pending after).map (t :: ·) = some ts)
      (hcarried : t.isBar = false → Carried (c :: rest) after) : Resumes fuel (c :: rest) := by
    obtain ⟨ts', hrest, rfl⟩ := Option.map_eq_some_iff.mp h
    obtain ⟨ht, hbars⟩ := bars_cons_eq_zero hbars
    exact ⟨_, _, _, hrest, hbars, hcarried ht⟩
  have hchar (hc : Calm c) : Carried (c :: rest) rest := (Passes.cons hc (.refl _)).carried
  rw [lexFrom.eq_def] at h
  dsimp only at h
  split_ifs at h with hblank hline hpending hstarts hcomment hslash hdigit hquote hword
  · have hc : Calm c := by obtain rfl | rfl | rfl := hblank <;> decide
    exact ⟨_, _, _, h, hbars, hchar hc⟩
  · exact ⟨_, _, _, h, hbars, hchar (hline ▸ by decide)⟩
  · exact htoken h fun _ => hchar (hline ▸ by decide)
  · subst hcomment
    exact ⟨_, _, _, h, hbars, carried_comment rest⟩
  · subst hslash
    split at h
    · split_ifs at h
      exact ⟨_, _, _, h, hbars, (Passes.cons (by decide) (.cons (by decide) (.refl _))).carried⟩
    · cases h
  · split at h
    · rename_i hnumber
      exact htoken h fun _ => (Passes.readNumber hnumber).carried
    · cases h
  · split at h
    · rename_i hread
      exact htoken h fun _ => carried_readQuoted hquote hread
    · cases h
  · split at h
    · rename_i hread
      exact htoken h fun _ => carried_readWord hread
    · cases h
  · split at h
    · cases h
    · rename_i s hfind
      split at h
      · cases h
      · exact htoken h fun hbar => (passes_operator hfind hbar).carried

/-- **Tokens without bars leave a pipeline undivided.** -/
theorem lexFrom_undivided {fuel : ℕ} {pending : List String} {ts : List Token}
    (h : lexFrom fuel pending cs = some ts) (hbars : bars ts = 0) (hplain : PlainlyQuoted cs) : Undivided cs := by
  -- plain quoting is carried forwards from token to token, being undivided backwards
  induction fuel generalizing pending cs ts with
  | zero => cases h
  | succ fuel ih =>
    cases cs with
    | nil => rfl
    | cons c rest =>
      obtain ⟨pending', after, ts', hrest, hbars', hcarried⟩ := lexFrom_step h hbars
      obtain ⟨hplain', hundivided⟩ := hcarried hplain
      exact hundivided (ih hrest hbars' hplain')

/-- **A simple expression is no more than one stage.** -/
theorem undivided_of_parse {e : Expr} (h : parse cs = some e) (he : e.isSimple = true)
    (hplain : PlainlyQuoted (unifyLines cs)) : Undivided cs := by
  obtain ⟨ts, hlex, hbars⟩ := exists_lex_of_parse h he
  unfold lex at hlex
  dsimp only at hlex
  split_ifs at hlex
  rw [Undivided, ← quoteAfter_unifyLines isQuote_none]
  exact lexFrom_undivided hlex hbars hplain

end Gabarit.Expression
