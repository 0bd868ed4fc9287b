import Gabarit.Proofs.Expression.Local
import Gabarit.Proofs.Text.Lines

/-!
# The place of a name

* `Step`: one step of reading tokens, with the text that is left;
* `step_of_lexFrom`, `Step.lexFrom`: the steps are those of the reader;
* `Step.local`: a step before a word is the same before another one;
* **`exists_place`**: a name among the tokens stands somewhere in the text, and with another name in its
  place the text has the same tokens but for that name.
-/

namespace Gabarit.Expression

open Text

variable {fuel : ℕ} {pending pending' : List String} {c q y : Char} {as bs cs u v rest after : List Char}
  {t : Token} {ts ts' : List Token}

/-- A number starts with a digit, or with a point before one. -/
def StartsNumber : List Char → Prop
  | [] => False
  | c :: rest => isDigit c = true ∨ c = '.' ∧ (rest.head?.map isDigit).getD false = true

/-- One step of reading tokens: the tokens that are read at the start of a text, which are none or one, and
the text after them. -/
inductive Step : List String → List Char → List Token → List String → List Char → Prop
  | blank {pending : List String} {c : Char} {rest : List Char} : c = ' ' ∨ c = '\t' ∨ c = '\x0c' →
    Step pending (c :: rest) [] pending rest
  | joined {pending : List String} {rest : List Char} : pending.isEmpty = false →
    Step pending ('\n' :: rest) [] pending rest
  | newline {pending : List String} {rest : List Char} : pending.isEmpty = true → lineStarts false rest = true →
    Step pending ('\n' :: rest) [.newline] pending rest
  | comment {pending : List String} {rest : List Char} : Step pending ('#' :: rest) [] pending (afterLine rest)
  | continued {pending : List String} {rest : List Char} : rest ≠ [] →
    Step pending ('\\' :: '\n' :: rest) [] pending rest
  | number {pending : List String} {t : Token} {cs after : List Char} : StartsNumber cs →
    readNumber cs = some (t, after) → Step pending cs [t] pending after
  | quoted {pending : List String} {q : Char} {t : Token} {rest after : List Char} : IsQuote q →
    readQuoted {} q rest = some (t, after) → Step pending (q :: rest) [t] pending after
  | word {pending : List String} {c : Char} {t : Token} {rest after : List Char} : isWordChar c = true →
    isDigit c = false → readWord (c :: rest) = some (t, after) → Step pending (c :: rest) [t] pending after
  | operator {pending pending' : List String} {s : String} {cs : List Char} : ¬StartsNumber cs →
    operators.find? (fun s => s.toList.isPrefixOf cs) = some s → track? pending s = some pending' →
    Step pending cs [.op s] pending' (cs.drop s.length)

/-- Tokens are read in steps. -/
theorem step_of_lexFrom (h : lexFrom (fuel + 1) pending (c :: rest) = some ts) :
    ∃ ts₀ pending' after ts', Step pending (c :: rest) ts₀ pending' after ∧
      lexFrom fuel pending' after = some ts' ∧ ts = ts₀ ++ ts' := by
  have htoken {t : Token} {pending' : List String} {after : List Char}
      (hstep : Step pending (c :: rest) [t] pending' after)
      (h : (lexFrom fuel pending' after).map (t :: ·) = some ts) :
      ∃ ts₀ pending' after ts', Step pending (c :: rest) ts₀ pending' after ∧
        lexFrom fuel pending' after = some ts' ∧ ts = ts₀ ++ ts' := by
    obtain ⟨ts', hrest, rfl⟩ := Option.map_eq_some_iff.mp h
    exact ⟨_, _, _, _, hstep, hrest, rfl⟩
  rw [lexFrom.eq_def] at h
  dsimp only at h
  split_ifs at h with hblank hline hpending hstarts hcomment hslash hdigit hquote hword
  · exact ⟨_, _, _, _, .blank hblank, h, rfl⟩
  · subst hline
    exact ⟨_, _, _, _, .joined (by simpa using hpending), h, rfl⟩
  · subst hline
    exact htoken (.newline (by simpa using hpending) hstarts) h
  · subst hcomment
    exact ⟨_, _, _, _, .comment, h, rfl⟩
  · subst hslash
    split at h
    · split_ifs at h with hempty
      exact ⟨_, _, _, _, .continued (by simpa using hempty), h, rfl⟩
    · cases h
  · split at h
    · exact htoken (.number hdigit ‹_›) h
    · cases h
  · split at h
    · exact htoken (.quoted hquote ‹_›) h
    · cases h
  · split at h
    · have hplain : isDigit c = false := by simpa using fun hd => hdigit (.inl hd)
      exact htoken (.word hword hplain ‹_›) h
    · cases h
  · split at h
    · cases h
    · split at h
      · cases h
      · exact htoken (.operator hdigit ‹_› ‹_›) h

/-- The characters that are skipped between tokens, and those that start a quoted text. -/
def spacing : List Char := [' ', '\t', '\x0c', '\n', '#', '\\', '\'', '"']

theorem not_mem_spacing {p : Char → Bool} (hp : ∀ d ∈ spacing, p d = false) (hc : p c = true) : c ∉ spacing := by
  intro hmem
  rw [hp c hmem] at hc
  cases hc

theorem StartsNumber.exists_cons (h : StartsNumber cs) : ∃ c rest, cs = c :: rest ∧ c ∉ spacing := by
  obtain _ | ⟨c, rest⟩ := cs
  · exact h.elim
  · refine ⟨c, rest, rfl, ?_⟩
    obtain hdigit | ⟨rfl, -⟩ := h
    · exact not_mem_spacing (by decide) hdigit
    · decide

theorem exists_cons_of_find? {s : String} (h : operators.find? (fun s => s.toList.isPrefixOf cs) = some s) :
    ∃ c rest, cs = c :: rest ∧ c ∉ spacing ∧ isWordChar c = false ∧ s.toList <+: cs := by
  have hmem := List.mem_of_find?_eq_some h
  have hstart := List.find?_some h
  rw [List.isPrefixOf_iff_prefix] at hstart
  have hall : ∀ s ∈ operators, s.toList ≠ [] ∧ ∀ c ∈ s.toList, c ∉ spacing ∧ isWordChar c = false := by decide
  obtain ⟨hne, hchars⟩ := hall s hmem
  obtain ⟨c, ds, hs⟩ := List.exists_cons_of_ne_nil hne
  obtain ⟨r, rfl⟩ := hstart
  refine ⟨c, ds ++ r, by rw [hs]; rfl, ?_, ?_, ⟨r, rfl⟩⟩
  · exact (hchars c (by rw [hs]; exact List.mem_cons_self)).1
  · exact (hchars c (by rw [hs]; exact List.mem_cons_self)).2

/-- A step is what the reader does. -/
theorem Step.lexFrom (h : Step pending cs ts pending' after) (fuel : ℕ) :
    lexFrom (fuel + 1) pending cs = (Expression.lexFrom fuel pending' after).map (ts ++ ·) := by
  cases h with
  | blank hblank =>
    rw [lexFrom.eq_def]
    simp [hblank]
  | joined hpending =>
    rw [lexFrom.eq_def]
    simp [hpending]
  | newline hpending hstarts =>
    rw [lexFrom.eq_def]
    simp [hpending, hstarts]
  | comment =>
    rw [lexFrom.eq_def]
    simp [afterLine]
  | continued hne =>
    rw [lexFrom.eq_def]
    simp [hne]
  | number hstarts hread =>
    obtain ⟨c, rest, rfl, hc⟩ := hstarts.exists_cons
    simp only [spacing, List.mem_cons, List.not_mem_nil, or_false, not_or] at hc
    rw [lexFrom.eq_def]
    simp only [StartsNumber] at hstarts
    simp [hc, hstarts, hread]
  | quoted hq hread =>
    rw [lexFrom_quoted hq, hread]
    rfl
  | @word c _ _ _ hword hplain hread =>
    have hc := not_mem_spacing (by decide) hword
    simp only [spacing, List.mem_cons, List.not_mem_nil, or_false, not_or] at hc
    have hpoint : c ≠ '.' := by
      rintro rfl
      cases hword
    rw [lexFrom.eq_def]
    simp [hc, hplain, hpoint, hword, hread]
  | operator hstarts hfind htrack =>
    obtain ⟨c, rest, rfl, hc, hword, -⟩ := exists_cons_of_find? hfind
    simp only [spacing, List.mem_cons, List.not_mem_nil, or_false, not_or] at hc
    simp only [StartsNumber] at hstarts
    rw [lexFrom.eq_def]
    simp [hc, hstarts, hword, hfind, htrack]

/-! ## What is left -/

theorem readDigits_length {p : Char → Bool} {ds : List Char} (h : readDigits p fuel cs = some (ds, rest)) :
    rest.length < cs.length := by
  induction fuel generalizing cs ds with
  | zero => cases h
  | succ fuel ih =>
    rw [readDigits] at h
    dsimp only at h
    have hsplit := congrArg List.length (List.takeWhile_append_dropWhile (p := p) (l := cs))
    rw [List.length_append] at hsplit
    split_ifs at h with hempty
    have hpos : 0 < (cs.takeWhile p).length := List.length_pos_iff.mpr (by simpa using hempty)
    split at h
    · rename_i r hr
      obtain ⟨⟨more, after⟩, hmore, hpair⟩ := Option.map_eq_some_iff.mp h
      cases hpair
      have := ih hmore
      rw [hr, List.length_cons] at hsplit
      omega
    · cases h
      omega

theorem Passes.length_le (h : Passes cs rest) : rest.length ≤ cs.length := by
  obtain ⟨used, rfl, -⟩ := h
  rw [List.length_append]
  omega

theorem Passes.suffix (h : Passes cs rest) : rest <:+ cs := by
  obtain ⟨used, rfl, -⟩ := h
  exact List.suffix_append used rest

theorem readNumber_length (hstarts : StartsNumber cs) (h : readNumber cs = some (t, rest)) :
    rest.length < cs.length := by
  have hdecimal {cs : List Char} (h : readNumber.decimal cs = some (t, rest)) : rest.length < cs.length := by
    obtain ⟨⟨ds, after⟩, hdigits, hafter⟩ := Option.bind_eq_some_iff.mp h
    exact (Passes.readDecimal hafter).length_le.trans_lt (readDigits_length hdigits)
  unfold readNumber at h
  split at h
  · rename_i r
    obtain hdigit | ⟨-, hdigit⟩ := hstarts
    · cases hdigit
    · obtain _ | ⟨d, r⟩ := r
      · cases hdigit
      · have hd : isDigit d = true := hdigit
        rw [readDecimal_point, if_pos hd] at h
        obtain ⟨⟨ds, after⟩, hread, hafter⟩ := Option.bind_eq_some_iff.mp h
        exact ((Passes.afterDigits hafter).length_le.trans_lt (readDigits_length hread)).trans (Nat.lt_succ_self _)
  · have hbased {base : ℕ} {c : Char} {r : List Char} (h : readBased base r = some (t, rest)) :
        rest.length < ('0' :: c :: r).length :=
      (Passes.readBased h).length_le.trans_lt (by simp only [List.length_cons]; omega)
    split_ifs at h
    · exact hbased h
    · exact hbased h
    · exact hbased h
    · exact hdecimal h
  · exact hdecimal h

theorem Step.suffix (h : Step pending cs ts pending' after) : after <:+ cs ∧ after.length < cs.length := by
  cases h with
  | blank | joined | newline => exact ⟨List.suffix_cons _ _, Nat.lt_succ_self _⟩
  | @comment rest =>
    have hsuffix : afterLine rest <:+ rest := List.dropWhile_suffix _
    exact ⟨hsuffix.trans (List.suffix_cons _ _), Nat.lt_succ_of_le hsuffix.length_le⟩
  | continued => exact ⟨(List.suffix_cons _ _).trans (List.suffix_cons _ _), by simp⟩
  | number hstarts hread => exact ⟨(Passes.readNumber hread).suffix, readNumber_length hstarts hread⟩
  | quoted hq hread =>
    have hsuffix := (List.suffix_cons _ _).trans (readQuoted_suffix hread)
    exact ⟨hsuffix.trans (List.suffix_cons _ _), Nat.lt_succ_of_le hsuffix.length_le⟩
  | word hword _ hread =>
    have hsuffix := readWord_suffix hread
    rw [List.dropWhile_cons_of_pos hword] at hsuffix
    have hrest := hsuffix.trans (List.dropWhile_suffix _)
    exact ⟨hrest.trans (List.suffix_cons _ _), Nat.lt_succ_of_le hrest.length_le⟩
  | @operator _ s _ _ hfind _ =>
    refine ⟨List.drop_suffix s.length cs, ?_⟩
    obtain ⟨c, rest, rfl, -, -, -⟩ := exists_cons_of_find? hfind
    have hpos : 0 < s.length := by
      have hall : ∀ s ∈ operators, 0 < s.length := by decide
      exact hall s (List.mem_of_find?_eq_some hfind)
    rw [List.length_drop, List.length_cons]
    omega

theorem lexes_of_lexFrom (h : lexFrom fuel pending cs = some ts) : Lexes pending cs ts := by
  induction fuel generalizing pending cs ts with
  | zero => cases h
  | succ fuel ih =>
    obtain _ | ⟨c, rest⟩ := cs
    · intro fuel' hfuel
      obtain _ | fuel' := fuel'
      · exact absurd hfuel (Nat.not_lt_zero _)
      · exact h
    · obtain ⟨ts₀, pending', after, ts', hstep, hrest, rfl⟩ := step_of_lexFrom h
      exact Lexes.step hstep.lexFrom hstep.suffix.2 (ih hrest)

/-! ## Words in their place -/

theorem startsNumber_local (hne : as ≠ []) (hy : isDigit y = false) :
    StartsNumber (as ++ '_' :: u) ↔ StartsNumber (as ++ y :: v) := by
  obtain _ | ⟨a, as⟩ := as
  · exact absurd rfl hne
  obtain _ | ⟨d, as⟩ := as
  · have hscore : isDigit '_' = false := by decide
    simp [StartsNumber, hy, hscore]
  · rfl

/-- **A step before a word is the same before another one.** -/
theorem Step.local (hne : as ≠ []) (hy : isAsciiStart y = true) (hcs : cs = as ++ '_' :: u)
    (hafter : after = bs ++ '_' :: u) (h : Step pending cs ts pending' after) :
    Step pending (as ++ y :: v) ts pending' (bs ++ y :: v) := by
  have hword : isWordChar y = true := isWordChar_eq (isAsciiContinue_of_start hy)
  have hdigit : isDigit y = false := isDigit_of_isAsciiStart hy
  have hquote : ¬IsQuote y := by
    rintro (rfl | rfl) <;> cases hy
  obtain ⟨a, as, rfl⟩ := List.exists_cons_of_ne_nil hne
  rw [List.cons_append] at hcs ⊢
  cases h with
  | blank hblank =>
    obtain ⟨rfl, rfl⟩ := List.cons.inj hcs
    rw [List.append_cancel_right hafter]
    exact .blank hblank
  | joined hpending =>
    obtain ⟨rfl, rfl⟩ := List.cons.inj hcs
    rw [List.append_cancel_right hafter]
    exact .joined hpending
  | newline hpending hstarts =>
    obtain ⟨rfl, rfl⟩ := List.cons.inj hcs
    obtain rfl := List.append_cancel_right hafter
    rw [lineStarts_local rfl hword false u v] at hstarts
    exact .newline hpending hstarts
  | comment =>
    obtain ⟨rfl, rfl⟩ := List.cons.inj hcs
    rcases has : as.dropWhile (· ≠ '\n') with _ | ⟨d, as'⟩
    · -- a comment that goes on up to the word takes it in
      have hlen := congrArg List.length hafter
      have hsuffix := (List.dropWhile_suffix (p := (· ≠ '\n')) (l := u)).length_le
      rw [afterLine, dropWhile_append_of_nil has, List.dropWhile_cons_of_pos (by decide), List.length_append,
        List.length_cons] at hlen
      omega
    · have hdrop := fun w => (span_append (has ▸ List.cons_ne_nil d as') w).2
      rw [afterLine, hdrop] at hafter
      rw [← List.append_cancel_right hafter, ← hdrop]
      exact .comment
  | continued hrest =>
    obtain ⟨rfl, hrest'⟩ := List.cons.inj hcs
    obtain _ | ⟨d, as⟩ := as
    · cases hrest'
    · obtain ⟨rfl, rfl⟩ := List.cons.inj hrest'
      rw [List.append_cancel_right hafter]
      exact .continued (by simp)
  | number hstarts hread =>
    subst hcs hafter
    exact .number ((startsNumber_local hne hdigit).mp hstarts) (readNumber_local (a :: as) hread _)
  | quoted hq hread =>
    obtain ⟨rfl, rfl⟩ := List.cons.inj hcs
    subst hafter
    refine .quoted hq (readQuoted_local hq hread ?_)
    rintro ⟨⟩
    exact hquote hq
  | word hc hplain hread =>
    obtain ⟨rfl, rfl⟩ := List.cons.inj hcs
    subst hafter
    refine .word hc hplain (readWord_local (_ :: as) hread ?_)
    rintro _ ⟨⟩
    exact hquote
  | @operator _ s _ hstarts hfind htrack =>
    subst hcs
    rw [← List.cons_append] at hstarts hfind hafter ⊢
    rw [find?_operator rfl] at hfind
    -- the operator is one of the text before the word
    have hlen : s.length ≤ (a :: as).length := by
      have hstart := List.find?_some hfind
      rw [List.isPrefixOf_iff_prefix] at hstart
      rw [← String.length_toList]
      exact hstart.length_le
    rw [List.drop_append_of_le_length hlen] at hafter
    rw [← List.append_cancel_right hafter, ← List.drop_append_of_le_length hlen]
    refine .operator (fun h => hstarts ((startsNumber_local hne hdigit).mpr h)) ?_ htrack
    rw [find?_operator hword]
    exact hfind

/-! ## Names in their place -/

variable {x : String}

theorem quotedToken?_ne_name {marks : QuoteMarks} {body : List Char} (x : String) :
    quotedToken? marks body ≠ some (.name x) := by
  intro h
  unfold quotedToken? at h
  split_ifs at h
  · cases h
  · cases h
  · cases h
  · obtain ⟨_, -, hname⟩ := Option.map_eq_some_iff.mp h
    cases hname

theorem readQuoted_ne_name {marks : QuoteMarks} (x : String) : readQuoted marks q cs ≠ some (.name x, rest) := by
  intro h
  rw [readQuoted_eq] at h
  obtain ⟨⟨body, after⟩, -, htoken⟩ := Option.bind_eq_some_iff.mp h
  obtain ⟨token, hquoted, hpair⟩ := Option.map_eq_some_iff.mp htoken
  cases hpair
  exact quotedToken?_ne_name x hquoted

theorem afterDigits_ne_name {whole frac : List Char} {point : Bool} (x : String) :
    afterDigits whole point frac cs ≠ some (.name x, rest) := by
  have hfinish {exponent : Option (Bool × List Char)} {cs : List Char} :
      readDecimal.finish whole point frac exponent cs ≠ some (.name x, rest) := by
    intro h
    unfold readDecimal.finish at h
    split_ifs at h <;> cases h
  intro h
  obtain ⟨⟨exponent, after⟩, -, hafter⟩ := Option.bind_eq_some_iff.mp h
  dsimp only at hafter
  split at hafter
  · split_ifs at hafter
    · cases hafter
    · exact hfinish hafter
  · exact hfinish hafter

theorem readDecimal_ne_name {whole : List Char} (x : String) : readDecimal whole cs ≠ some (.name x, rest) := by
  intro h
  unfold readDecimal at h
  split at h
  · dsimp only at h
    split_ifs at h
    · obtain ⟨⟨point, frac, after⟩, -, hafter⟩ := Option.bind_eq_some_iff.mp h
      exact afterDigits_ne_name x hafter
    · exact afterDigits_ne_name x h
  · exact afterDigits_ne_name x h

theorem readNumber_ne_name (x : String) : readNumber cs ≠ some (.name x, rest) := by
  have hdecimal {cs : List Char} : readNumber.decimal cs ≠ some (.name x, rest) := by
    intro h
    obtain ⟨_, -, hafter⟩ := Option.bind_eq_some_iff.mp h
    exact readDecimal_ne_name x hafter
  have hbased {base : ℕ} {cs : List Char} : readBased base cs ≠ some (.name x, rest) := by
    intro h
    unfold readBased at h
    obtain ⟨_, -, hafter⟩ := Option.bind_eq_some_iff.mp h
    dsimp only at hafter
    split_ifs at hafter
    cases hafter
  intro h
  unfold readNumber at h
  split at h
  · exact readDecimal_ne_name x h
  · split_ifs at h
    · exact hbased h
    · exact hbased h
    · exact hbased h
    · exact hdecimal h
  · exact hdecimal h

theorem readWord_eq_name (h : readWord cs = some (.name x, rest)) :
    rest = cs.dropWhile isWordChar ∧ wordToken? (cs.takeWhile isWordChar) = some (.name x) := by
  have hplain {word after : List Char} (h : (wordToken? word).map (·, after) = some (.name x, rest)) :
      rest = after ∧ wordToken? word = some (.name x) := by
    obtain ⟨token, htoken, hpair⟩ := Option.map_eq_some_iff.mp h
    cases hpair
    exact ⟨rfl, htoken⟩
  unfold readWord at h
  dsimp only at h
  split at h
  · split_ifs at h
    · split at h
      · exact absurd h (readQuoted_ne_name x)
      · exact hplain h
    · exact hplain h
  · exact hplain h

theorem Step.word_of_name (h : Step pending cs [.name x] pending' after) :
    pending' = pending ∧ after = cs.dropWhile isWordChar ∧
      wordToken? (cs.takeWhile isWordChar) = some (.name x) := by
  cases h with
  | number _ hread => exact absurd hread (readNumber_ne_name x)
  | quoted _ hread => exact absurd hread (readQuoted_ne_name x)
  | word _ _ hread => exact ⟨rfl, readWord_eq_name hread⟩

theorem Step.append_cases {us vs : List Token} (h : Step pending cs ts pending' after)
    (hts : us ++ t :: vs = ts ++ ts') :
    (∃ us', us = ts ++ us' ∧ ts' = us' ++ t :: vs) ∨ us = [] ∧ ts = [t] ∧ ts' = vs := by
  obtain rfl | ⟨t', rfl⟩ : ts = [] ∨ ∃ t', ts = [t'] := by
    cases h <;> simp
  · exact .inl ⟨us, rfl, hts.symm⟩
  · obtain _ | ⟨t₁, us⟩ := us
    · obtain ⟨rfl, rfl⟩ := List.cons.inj hts
      exact .inr ⟨rfl, rfl, rfl⟩
    · obtain ⟨rfl, htail⟩ := List.cons.inj hts
      exact .inl ⟨us, rfl, htail.symm⟩

theorem readWord_placed {n : List Char} (hname : AsciiName n) (hmarks : quoteMarks? n = none)
    (hrest : ∀ c ∈ rest.head?, isWordChar c = false) :
    readWord (n ++ rest) = (wordToken? n).map (·, rest) := by
  have hword : ∀ c ∈ n, isWordChar c = true := fun c hc => isWordChar_eq (hname.isAsciiContinue c hc)
  unfold readWord
  rw [List.takeWhile_append_of_pos hword, List.dropWhile_append_of_pos hword]
  obtain _ | ⟨c, rest⟩ := rest
  · simp
  · have hc := hrest c rfl
    simp [hc, hmarks]

theorem Lexes.placed {n : List Char} (hname : AsciiName n) (hmarks : quoteMarks? n = none)
    (ht : wordToken? n = some t) (hrest : ∀ c ∈ rest.head?, isWordChar c = false) (h : Lexes pending rest ts) :
    Lexes pending (n ++ rest) (t :: ts) := by
  have hread := readWord_placed hname hmarks hrest
  obtain ⟨c, ds, rfl, hc⟩ := hname.exists_cons
  rw [ht, Option.map_some] at hread
  exact Lexes.word hc hread (by simp) h

/-- **A name among the tokens of a text has its place in the text.** With another name in the place of one
that starts with an underscore, the text has that name among the same tokens. -/
theorem exists_place {us vs : List Token} (h : lexFrom fuel pending cs = some (us ++ .name x :: vs)) :
    ∃ as w bs, cs = as ++ (w ++ bs) ∧ (∀ c ∈ w, isWordChar c = true) ∧ wordToken? w = some (.name x) ∧
      (w.head? = some '_' → ∀ n t, AsciiName n → quoteMarks? n = none → wordToken? n = some t →
        Lexes pending (as ++ (n ++ bs)) (us ++ t :: vs)) := by
  induction fuel generalizing pending cs us with
  | zero => cases h
  | succ fuel ih =>
    obtain _ | ⟨c, rest⟩ := cs
    · rw [Expression.lexFrom] at h
      · split_ifs at h
        simp at h
      · exact Nat.succ_ne_zero fuel
    obtain ⟨ts₀, pending', after, ts', hstep, hrest, hts⟩ := step_of_lexFrom h
    obtain ⟨us', rfl, rfl⟩ | ⟨rfl, rfl, rfl⟩ := hstep.append_cases hts
    · -- the step is before the name, and so before the other one
      obtain ⟨as, w, bs, rfl, hword, hw, hplace⟩ := ih hrest
      obtain ⟨⟨used, hused⟩, hlen⟩ := hstep.suffix
      have hne : used ≠ [] := by
        rintro rfl
        rw [← hused] at hlen
        exact absurd hlen (Nat.lt_irrefl _)
      refine ⟨used ++ as, w, bs, by rw [← hused, List.append_assoc], hword, hw,
        fun hhead n t hname hmarks ht => ?_⟩
      obtain ⟨y, ds, rfl, hy⟩ := hname.exists_cons
      obtain ⟨u, hu⟩ : ∃ u, w ++ bs = '_' :: u := by
        obtain ⟨w, rfl⟩ := List.head?_eq_some_iff.mp hhead
        exact ⟨w ++ bs, rfl⟩
      rw [hu, ← List.append_assoc] at hused
      rw [hu] at hstep
      have hsame := hstep.local (by simp [hne]) hy hused.symm rfl (v := ds ++ bs)
      rw [List.append_assoc] at hsame ⊢
      rw [List.append_assoc]
      exact Lexes.step (f := (ts₀ ++ ·)) hsame.lexFrom hsame.suffix.2 (hplace hhead _ t hname hmarks ht)
    · obtain ⟨rfl, rfl, hw⟩ := hstep.word_of_name
      refine ⟨[], _, _, List.takeWhile_append_dropWhile.symm, List.all_eq_true.mp List.all_takeWhile, hw,
        fun _ n t hname hmarks ht => ?_⟩
      rw [List.nil_append, List.nil_append]
      refine Lexes.placed hname hmarks ht (fun d hd => ?_) (lexes_of_lexFrom hrest)
      have hstop := List.head?_dropWhile_not isWordChar (c :: rest)
      rw [hd] at hstop
      exact hstop

/-! ## Whole texts -/

/-- **A name among the tokens of a whole text has its place in it.** -/
theorem exists_place_lex {us vs : List Token} (h : lex cs = some (us ++ .name x :: vs)) :
    ∃ as w bs, cs = as ++ (w ++ bs) ∧ wordToken? w = some (.name x) ∧
      (w.head? = some '_' → ∀ n t, AsciiName n → quoteMarks? n = none → wordToken? n = some t →
        lex (as ++ (n ++ bs)) = some (us ++ t :: vs)) := by
  unfold lex at h
  dsimp only at h
  split_ifs at h with hstarts
  obtain ⟨as', w, bs', hunified, hword, hw, hplace⟩ := exists_place h
  obtain ⟨as, rest, rfl, rfl, hrest⟩ := exists_of_unifyLines_append hunified
  obtain ⟨w', bs, rfl, hw', rfl⟩ := exists_of_unifyLines_append hrest
  have hline : '\n' ∉ w := fun hmem => Bool.false_ne_true (hword _ hmem)
  obtain rfl : w' = w := by
    rw [← hw'] at hline ⊢
    exact (unifyLines_of_not_mem hline).symm
  refine ⟨as, w', bs, rfl, hw, fun hhead n t hname hmarks ht => ?_⟩
  obtain ⟨y, ds, rfl, hy⟩ := hname.exists_cons
  obtain ⟨w, rfl⟩ : ∃ w, w' = '_' :: w := List.head?_eq_some_iff.mp hhead
  have hword : isWordChar y = true := isWordChar_eq (isAsciiContinue_of_start hy)
  have hunified' : unifyLines (as ++ (y :: ds ++ bs)) = unifyLines as ++ (y :: ds ++ unifyLines bs) := by
    rw [unifyLines_append, unifyLines_append_of_not_mem (hname.not_mem (by decide))]
    rintro ⟨⟩
    cases hword
  have hstarts' : lineStarts false (unifyLines as ++ (y :: ds ++ unifyLines bs)) = true := by
    rw [hunified] at hstarts
    exact (lineStarts_local hword rfl false _ _).trans hstarts
  rw [lex, hunified', if_pos hstarts']
  exact hplace hhead _ t hname hmarks ht _ (Nat.lt_succ_self _)

theorem Step.length_le (h : Step pending cs ts pending' after) : ts.length ≤ 1 := by
  cases h <;> simp

theorem length_lexFrom_le (h : Expression.lexFrom fuel pending cs = some ts) : ts.length ≤ cs.length := by
  induction fuel generalizing pending cs ts with
  | zero => cases h
  | succ fuel ih =>
    obtain _ | ⟨c, rest⟩ := cs
    · rw [Expression.lexFrom] at h
      · split_ifs at h
        cases h
        exact Nat.le_refl _
      · exact Nat.succ_ne_zero fuel
    obtain ⟨ts₀, pending', after, ts', hstep, hrest, rfl⟩ := step_of_lexFrom h
    have hone := hstep.length_le
    have hless := hstep.suffix.2
    have hmore := ih hrest
    rw [List.length_append]
    omega

theorem length_lex_le (h : lex cs = some ts) : ts.length ≤ cs.length := by
  unfold lex at h
  dsimp only at h
  split_ifs at h
  exact (length_lexFrom_le h).trans (length_unifyLines_le cs)

end Gabarit.Expression
