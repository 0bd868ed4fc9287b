import Gabarit.Proofs.Template.Undivided
import Mathlib.Data.List.Find

/-!
# What is read before a word

A token is read without regard to the word after it, as long as that word starts with a letter or an
underscore. So another word can be put in the place of one that starts with an underscore, where digits and
what marks a number would end.

* `readNumber_local`: numbers, which no underscore can follow;
* `readQuoted_local`: quoted texts, whose bodies are read up to their closing quote;
* `readWord_local`, `find?_operator`: words and operators;
* `lineStarts_local`: the blanks that a line may start with.
-/

namespace Gabarit.Expression

open Text

variable {c q : Char} {as bs u body cs rest : List Char} {t : Token}

/-! ## Runs of characters -/

theorem span_append {p : Char → Bool} (h : as.dropWhile p ≠ []) (w : List Char) :
    (as ++ w).takeWhile p = as.takeWhile p ∧ (as ++ w).dropWhile p = as.dropWhile p ++ w := by
  induction as with
  | nil => exact absurd rfl h
  | cons a as ih =>
    rw [List.cons_append, List.takeWhile_cons, List.takeWhile_cons, List.dropWhile_cons, List.dropWhile_cons]
    rw [List.dropWhile_cons] at h
    cases hp : p a
    · simp
    · rw [hp, if_pos rfl] at h
      simp [ih h]

theorem dropWhile_append_of_nil {p : Char → Bool} (h : as.dropWhile p = []) (w : List Char) :
    (as ++ w).dropWhile p = w.dropWhile p := by
  rw [List.dropWhile_append, h]
  rfl

theorem not_passes_tail : ¬Passes u (bs ++ c :: u) := by
  rintro ⟨used, h, -⟩
  have := congrArg List.length h
  simp only [List.length_append, List.length_cons] at this
  omega

/-! ## Numbers -/

/-- A run of digits that ends in the first part of a text, and what it may be divided from by an underscore. -/
theorem readDigits_run {p : Char → Bool} {d : Char} (h : as.dropWhile p = d :: bs) (fuel : ℕ)
    (w : List Char) : readDigits p (fuel + 1) (as ++ w) =
      if (as.takeWhile p).isEmpty then none
      else if d = '_' then
        (readDigits p fuel (bs ++ w)).map fun (more, after) => (as.takeWhile p ++ more, after)
      else some (as.takeWhile p, d :: (bs ++ w)) := by
  obtain ⟨htake, hdrop⟩ := span_append (h ▸ List.cons_ne_nil d bs) w
  rw [readDigits, htake, hdrop, h, List.cons_append]
  split_ifs with hempty hd
  · rfl
  · subst hd
    rfl
  · split
    · rename_i heq
      exact absurd (List.cons.inj heq).1 hd
    · rfl

/-- Digits that are read before a word end before something else. -/
theorem readDigits_local (as : List Char) {p : Char → Bool} (hp : ∀ d ∈ ['\'', '"', '|', '#'], p d = false)
    (hscore : p '_' = false) {fuel : ℕ} {ds : List Char}
    (h : readDigits p fuel (as ++ '_' :: u) = some (ds, bs ++ '_' :: u)) :
    bs ≠ [] ∧ ∀ w fuel', (as ++ w).length < fuel' → readDigits p fuel' (as ++ w) = some (ds, bs ++ w) := by
  induction fuel generalizing as ds with
  | zero => cases h
  | succ fuel ih =>
    rcases has : as.dropWhile p with _ | ⟨d, as'⟩
    · -- digits up to the word would take in its underscore
      rw [readDigits, dropWhile_append_of_nil has, List.dropWhile_cons_of_neg (by simp [hscore])] at h
      split_ifs at h
      obtain ⟨⟨more, after⟩, hmore, hpair⟩ := Option.map_eq_some_iff.mp h
      cases hpair
      exact absurd (Passes.readDigits hp hmore) not_passes_tail
    · have hlen := (List.dropWhile_suffix p (l := as)).length_le
      rw [has, List.length_cons] at hlen
      rw [readDigits_run has] at h
      split_ifs at h with hempty hd
      · obtain ⟨⟨more, after⟩, hmore, hpair⟩ := Option.map_eq_some_iff.mp h
        cases hpair
        obtain ⟨hne, hread⟩ := ih _ hmore
        refine ⟨hne, fun w fuel' hfuel => ?_⟩
        obtain _ | fuel' := fuel'
        · exact absurd hfuel (Nat.not_lt_zero _)
        rw [List.length_append] at hfuel
        rw [readDigits_run has, if_neg hempty, if_pos hd, hread w fuel' (by rw [List.length_append]; omega)]
        rfl
      · obtain ⟨rfl, hbs⟩ := Prod.mk.inj (Option.some.inj h)
        rw [← List.cons_append, List.append_left_inj] at hbs
        subst hbs
        refine ⟨List.cons_ne_nil d as', fun w fuel' hfuel => ?_⟩
        obtain _ | fuel' := fuel'
        · exact absurd hfuel (Nat.not_lt_zero _)
        rw [readDigits_run has, if_neg hempty, if_neg hd, List.cons_append]

theorem isPrefixOf_append {s : List Char} (hc : c ∉ s) (w : List Char) :
    s.isPrefixOf (as ++ c :: w) = s.isPrefixOf as := by
  induction as generalizing s with
  | nil =>
    obtain _ | ⟨d, s⟩ := s
    · rfl
    · have hd : d ≠ c := fun hd => hc (hd ▸ List.mem_cons_self)
      simp [List.isPrefixOf, hd]
  | cons a as ih =>
    obtain _ | ⟨d, s⟩ := s
    · rfl
    · rw [List.cons_append, List.isPrefixOf, List.isPrefixOf, ih fun hmem => hc (List.mem_cons_of_mem d hmem)]

theorem numberEnds_local (h : numberEnds (bs ++ '_' :: u) = true) :
    bs ≠ [] ∧ bs ≠ ['e'] ∧ bs ≠ ['E'] ∧ ∀ w, numberEnds (bs ++ w) = true := by
  have hscore : ∀ w ∈ wordsAfterNumber, '_' ∉ w.toList := by decide
  have hplain : (!isWordChar '_') = false := rfl
  have hword : numberEnds bs = true ∧ bs ≠ [] := by
    obtain _ | ⟨b, bs⟩ := bs
    · rw [List.nil_append, numberEnds, hplain, Bool.false_or, List.any_eq_true] at h
      obtain ⟨w, hw, hstart⟩ := h
      rw [← List.nil_append ('_' :: u), isPrefixOf_append (hscore w hw)] at hstart
      revert w
      decide
    · refine ⟨?_, List.cons_ne_nil b bs⟩
      rw [List.cons_append, numberEnds, Bool.or_eq_true, List.any_eq_true] at h
      rw [numberEnds, Bool.or_eq_true, List.any_eq_true]
      refine h.imp_right ?_
      rintro ⟨w, hw, hstart⟩
      refine ⟨w, hw, ?_⟩
      rwa [← List.cons_append, isPrefixOf_append (hscore w hw)] at hstart
  refine ⟨hword.2, ?_, ?_, fun w => ?_⟩
  · rintro rfl
    exact absurd hword.1 (by decide)
  · rintro rfl
    exact absurd hword.1 (by decide)
  · obtain _ | ⟨b, bs⟩ := bs
    · exact absurd rfl hword.2
    · have hends := hword.1
      rw [numberEnds, Bool.or_eq_true, List.any_eq_true] at hends
      rw [List.cons_append, numberEnds, Bool.or_eq_true, List.any_eq_true]
      refine hends.imp_right ?_
      rintro ⟨w', hw, hstart⟩
      refine ⟨w', hw, ?_⟩
      rw [List.isPrefixOf_iff_prefix] at hstart ⊢
      exact hstart.trans ⟨w, rfl⟩

/-- A digit in a base. -/
def isDigitIn (base : ℕ) (c : Char) : Bool := ((hexDigit? c).map fun d => decide (d < base)).getD false

theorem isDigitIn_eq_false (base : ℕ) (h : hexDigit? c = none) : isDigitIn base c = false := by
  rw [isDigitIn, h]
  rfl

/-- The number that digits in a base write. -/
def digitsIn (base : ℕ) (cs : List Char) : Option (Token × List Char) :=
  (readDigits (isDigitIn base) (cs.length + 1) cs).bind fun (ds, rest) =>
    if numberEnds rest then some (.int (ds.foldl (fun v c => base * v + (hexDigit? c).getD 0) 0), rest) else none

theorem isDigitIn_calm (base : ℕ) : ∀ d ∈ ['\'', '"', '|', '#'], isDigitIn base d = false := by
  have hnone : ∀ d ∈ ['\'', '"', '|', '#'], hexDigit? d = none := by decide
  exact fun d hd => isDigitIn_eq_false base (hnone d hd)

theorem digitsIn_eq_some {base : ℕ} (cs : List Char) (h : digitsIn base cs = some (t, rest)) :
    ∃ ds, readDigits (isDigitIn base) (cs.length + 1) cs = some (ds, rest) ∧ numberEnds rest = true ∧
      t = .int (ds.foldl (fun v c => base * v + (hexDigit? c).getD 0) 0) := by
  obtain ⟨⟨ds, after⟩, hread, hafter⟩ := Option.bind_eq_some_iff.mp h
  dsimp only at hafter
  split_ifs at hafter with hends
  cases hafter
  exact ⟨ds, hread, hends, rfl⟩

theorem digitsIn_local {base : ℕ} (as : List Char)
    (h : digitsIn base (as ++ '_' :: u) = some (t, bs ++ '_' :: u)) (w : List Char) :
    digitsIn base (as ++ w) = some (t, bs ++ w) := by
  obtain ⟨ds, hread, hends, rfl⟩ := digitsIn_eq_some _ h
  have hdigits := (readDigits_local as (isDigitIn_calm base) (isDigitIn_eq_false base rfl) hread).2 w _
    (Nat.lt_succ_self _)
  rw [digitsIn, hdigits, Option.bind_some]
  dsimp only
  rw [if_pos ((numberEnds_local hends).2.2.2 w)]

theorem readBased_local {base : ℕ} (h : readBased base (as ++ '_' :: u) = some (t, bs ++ '_' :: u))
    (w : List Char) : readBased base (as ++ w) = some (t, bs ++ w) := by
  obtain _ | ⟨a, as⟩ := as
  · -- the underscore that may stand before the digits leaves less than what it starts
    obtain ⟨ds, hread, -⟩ := digitsIn_eq_some u h
    exact absurd (Passes.readDigits (isDigitIn_calm base) hread) not_passes_tail
  by_cases ha : a = '_'
  · subst ha
    exact digitsIn_local as h w
  · have hsame (w : List Char) : readBased base (a :: as ++ w) = digitsIn base (a :: as ++ w) := by
      rw [readBased]
      · rfl
      · simpa using ha
    rw [hsame] at h ⊢
    exact digitsIn_local (a :: as) h w

/-- An exponent without a sign starts with a digit. -/
theorem readExponent_unsigned {d : Char} (hc : c = 'e' ∨ c = 'E') (hplus : d ≠ '+') (hminus : d ≠ '-')
    (r : List Char) : readExponent (c :: d :: r) =
      if isDigit d then (readDigits isDigit ((d :: r).length + 1) (d :: r)).map fun (ds, after) =>
        (some (false, ds), after)
      else some (none, c :: d :: r) := by
  rw [readExponent, if_pos hc]
  split
  · exact absurd (List.cons.inj ‹_›).1 hplus
  · exact absurd (List.cons.inj ‹_›).1 hminus
  · rename_i heq
    obtain ⟨rfl, -⟩ := List.cons.inj heq
    rfl
  · cases ‹d :: r = []›

theorem readExponent_local {exponent : Option (Bool × List Char)} (hne : as ≠ []) (he : as ≠ ['e']) (hE : as ≠ ['E'])
    (h : readExponent (as ++ '_' :: u) = some (exponent, bs ++ '_' :: u)) (w : List Char) :
    readExponent (as ++ w) = some (exponent, bs ++ w) := by
  have hdigits {negative : Bool} (cs : List Char)
      (h : (readDigits isDigit ((cs ++ '_' :: u).length + 1) (cs ++ '_' :: u)).map
        (fun (ds, after) => (some (negative, ds), after)) = some (exponent, bs ++ '_' :: u)) :
      (readDigits isDigit ((cs ++ w).length + 1) (cs ++ w)).map
        (fun (ds, after) => (some (negative, ds), after)) = some (exponent, bs ++ w) := by
    obtain ⟨⟨ds, after⟩, hread, hpair⟩ := Option.map_eq_some_iff.mp h
    cases hpair
    rw [(readDigits_local cs Passes.isDigit_calm rfl hread).2 w _ (Nat.lt_succ_self _), Option.map_some]
  have hnothing (cs : List Char) (h : some (none, cs ++ '_' :: u) = some (exponent, bs ++ '_' :: u)) :
      some (none, cs ++ w) = some (exponent, bs ++ w) := by
    obtain ⟨rfl, hcs⟩ := Prod.mk.inj (Option.some.inj h)
    rw [List.append_left_inj] at hcs
    rw [hcs]
  obtain ⟨c, as, rfl⟩ := List.exists_cons_of_ne_nil hne
  by_cases hc : c = 'e' ∨ c = 'E'
  · obtain _ | ⟨d, as⟩ := as
    · obtain rfl | rfl := hc
      · exact absurd rfl he
      · exact absurd rfl hE
    · by_cases hplus : d = '+'
      · subst hplus
        rw [List.cons_append, readExponent, if_pos hc] at h ⊢
        exact hdigits as h
      by_cases hminus : d = '-'
      · subst hminus
        rw [List.cons_append, readExponent, if_pos hc] at h ⊢
        exact hdigits as h
      rw [List.cons_append, List.cons_append, readExponent_unsigned hc hplus hminus] at h ⊢
      split_ifs at h ⊢
      · exact hdigits (d :: as) h
      · exact hnothing (c :: d :: as) h
  · rw [List.cons_append, readExponent, if_neg hc] at h ⊢
    exact hnothing (c :: as) h

theorem finish_local {whole frac : List Char} {point : Bool} {exponent : Option (Bool × List Char)}
    (h : readDecimal.finish whole point frac exponent cs = some (t, rest)) (w : List Char) :
    readDecimal.finish whole point frac exponent w = some (t, w) := by
  unfold readDecimal.finish at h ⊢
  split_ifs at h ⊢ <;> cases h <;> rfl

theorem readExponent_score (has : as ∈ [[], ['e'], ['E']]) (u : List Char) :
    readExponent (as ++ '_' :: u) = some (none, as ++ '_' :: u) := by
  simp only [List.mem_cons, List.not_mem_nil, or_false] at has
  obtain rfl | rfl | rfl := has
  · rfl
  · exact readExponent_unsigned (.inl rfl) (by decide) (by decide) u
  · exact readExponent_unsigned (.inr rfl) (by decide) (by decide) u

theorem afterDigits_local {whole frac : List Char} {point : Bool} (as : List Char)
    (h : afterDigits whole point frac (as ++ '_' :: u) = some (t, bs ++ '_' :: u)) :
    as ≠ [] ∧ ∀ w, afterDigits whole point frac (as ++ w) = some (t, bs ++ w) := by
  rw [afterDigits] at h
  obtain ⟨⟨exponent, after⟩, hexponent, hafter⟩ := Option.bind_eq_some_iff.mp h
  -- what is left after the exponent ends in something else
  have hlocal {ds : List Char} (hds : ds ∉ [[], ['e'], ['E']]) (hread : after = ds ++ '_' :: u) :
      as ≠ [] ∧ ∀ w, readExponent (as ++ w) = some (exponent, ds ++ w) := by
    subst hread
    have has : as ∉ [[], ['e'], ['E']] := by
      intro hmem
      have hpair := Option.some.inj ((readExponent_score hmem u).symm.trans hexponent)
      rw [List.append_cancel_right (Prod.mk.inj hpair).2] at hmem
      exact hds hmem
    simp only [List.mem_cons, List.not_mem_nil, or_false, not_or] at has
    exact ⟨has.1, readExponent_local has.1 has.2.1 has.2.2 hexponent⟩
  obtain _ | ⟨c, r⟩ := after
  · have := Passes.finish hafter
    simp at this
  · dsimp only at hafter
    split_ifs at hafter with hj hends hplain
    · cases hafter
      have hc : c :: bs ∉ [[], ['e'], ['E']] := by
        obtain rfl | rfl := hj <;> simp
      obtain ⟨hne, hread⟩ := hlocal hc rfl
      refine ⟨hne, fun w => ?_⟩
      rw [afterDigits, hread w]
      simp [hj, (numberEnds_local hends).2.2.2 w]
    · have hrest := Passes.finish hafter
      rw [← hrest, Bool.not_eq_true', Bool.not_eq_false] at hplain
      obtain ⟨hnil, he, hE, hends⟩ := numberEnds_local hplain
      obtain ⟨hne, hread⟩ := hlocal (by simp [hnil, he, hE]) hrest.symm
      refine ⟨hne, fun w => ?_⟩
      obtain ⟨b, bs, rfl⟩ := List.exists_cons_of_ne_nil hnil
      obtain ⟨rfl, -⟩ := List.cons.inj hrest
      rw [afterDigits, hread w]
      have hends := hends w
      rw [List.cons_append] at hends ⊢
      simp [hj, hends, finish_local hafter]

theorem readDecimal_plain {whole : List Char} (hc : c ≠ '.') (r : List Char) :
    readDecimal whole (c :: r) = afterDigits whole false [] (c :: r) := by
  rw [readDecimal]
  · rfl
  · simpa using hc

theorem readDecimal_point {whole : List Char} (d : Char) (r : List Char) :
    readDecimal whole ('.' :: d :: r) =
      if isDigit d then
        (readDigits isDigit ((d :: r).length + 1) (d :: r)).bind fun (ds, after) => afterDigits whole true ds after
      else afterDigits whole true [] (d :: r) := by
  have hhead : ((d :: r).head?.map isDigit).getD false = isDigit d := rfl
  rw [readDecimal]
  by_cases hd : isDigit d = true
  · rw [if_pos (hhead.trans hd), if_pos hd]
    cases readDigits isDigit ((d :: r).length + 1) (d :: r) <;> rfl
  · rw [if_neg (hhead ▸ hd), if_neg hd]
    rfl

theorem readDecimal_local {whole : List Char} (as : List Char)
    (h : readDecimal whole (as ++ '_' :: u) = some (t, bs ++ '_' :: u)) :
    as ≠ [] ∧ ∀ w, readDecimal whole (as ++ w) = some (t, bs ++ w) := by
  obtain _ | ⟨c, as⟩ := as
  · rw [List.nil_append, readDecimal_plain (by decide)] at h
    exact absurd rfl (afterDigits_local [] h).1
  refine ⟨List.cons_ne_nil c as, fun w => ?_⟩
  by_cases hc : c = '.'
  · subst hc
    obtain _ | ⟨d, as⟩ := as
    · rw [List.cons_append, List.nil_append, readDecimal_point] at h
      exact absurd rfl (afterDigits_local [] h).1
    rw [List.cons_append, List.cons_append, readDecimal_point] at h ⊢
    split_ifs at h ⊢
    · obtain ⟨⟨ds, after⟩, hdigits, hafter⟩ := Option.bind_eq_some_iff.mp h
      obtain ⟨used, rfl, -⟩ := Passes.afterDigits hafter
      rw [← List.append_assoc] at hdigits hafter
      have hread := (readDigits_local (d :: as) Passes.isDigit_calm rfl hdigits).2 w _ (Nat.lt_succ_self _)
      rw [← List.cons_append, hread, Option.bind_some]
      exact (afterDigits_local _ hafter).2 w
    · exact (afterDigits_local (d :: as) h).2 w
  · rw [List.cons_append, readDecimal_plain hc] at h ⊢
    exact (afterDigits_local (c :: as) h).2 w

theorem decimal_local (as : List Char) (h : readNumber.decimal (as ++ '_' :: u) = some (t, bs ++ '_' :: u)) :
    as ≠ [] ∧ as ≠ ['0'] ∧ ∀ w, readNumber.decimal (as ++ w) = some (t, bs ++ w) := by
  obtain ⟨⟨ds, after⟩, hdigits, hafter⟩ := Option.bind_eq_some_iff.mp h
  obtain ⟨used, rfl, -⟩ := Passes.readDecimal hafter
  rw [← List.append_assoc] at hdigits hafter
  obtain ⟨hne, hread⟩ := readDigits_local as Passes.isDigit_calm rfl hdigits
  refine ⟨?_, ?_, fun w => ?_⟩
  · rintro rfl
    cases hread [] 1 Nat.zero_lt_one
  · rintro rfl
    -- the digits of this text leave nothing before the word
    have hzero : readDigits isDigit 2 ['0'] = some (['0'], []) := rfl
    have hpair := (hread [] 2 (by decide)).symm.trans hzero
    rw [List.append_nil] at hpair
    exact hne (Prod.mk.inj (Option.some.inj hpair)).2
  · rw [readNumber.decimal, hread w _ (Nat.lt_succ_self _), Option.bind_some]
    exact (readDecimal_local _ hafter).2 w

theorem readNumber_decimal_eq (hpoint : c ≠ '.') (hzero : c ≠ '0') (r : List Char) :
    readNumber (c :: r) = readNumber.decimal (c :: r) := by
  rw [readNumber]
  · simpa using hpoint
  · simp [hzero]

/-- **A number is read without regard to a word that stands further on.** -/
theorem readNumber_local (as : List Char) (h : readNumber (as ++ '_' :: u) = some (t, bs ++ '_' :: u))
    (w : List Char) : readNumber (as ++ w) = some (t, bs ++ w) := by
  obtain _ | ⟨c, as⟩ := as
  · exact absurd rfl (decimal_local [] h).1
  by_cases hpoint : c = '.'
  · subst hpoint
    exact (readDecimal_local ('.' :: as) h).2 w
  by_cases hzero : c = '0'
  · subst hzero
    obtain _ | ⟨d, as⟩ := as
    · exact absurd rfl (decimal_local ['0'] h).2.1
    · rw [List.cons_append, List.cons_append, readNumber] at h ⊢
      split_ifs at h ⊢
      · exact readBased_local h w
      · exact readBased_local h w
      · exact readBased_local h w
      · exact (decimal_local ('0' :: d :: as) h).2.2 w
  · rw [List.cons_append, readNumber_decimal_eq hpoint hzero] at h ⊢
    exact (decimal_local (c :: as) h).2.2 w

/-! ## Texts, words and operators -/

theorem readLineBody_closed (hq : IsQuote q) (h : readLineBody q (body ++ q :: rest) = some (body, rest))
    (w : List Char) : readLineBody q (body ++ q :: w) = some (body, w) := by
  have hslash : q ≠ '\\' := by obtain rfl | rfl := hq <;> decide
  induction body using readLineBody.induct q with
  | case1 => rw [List.nil_append, readLineBody.eq_3 _ _ _ fun _ _ hq => absurd hq hslash, if_pos rfl]
  | case2 c cs ih =>
    rw [List.cons_append, List.cons_append, readLineBody, Option.map_eq_some_iff] at h ⊢
    obtain ⟨⟨body, after⟩, hread, hpair⟩ := h
    cases hpair
    exact ⟨(cs, w), ih hread, rfl⟩
  | case3 cs =>
    rw [List.cons_append, readLineBody.eq_3 _ _ _ fun _ _ hq => absurd hq hslash, if_pos rfl] at h
    cases h
  | case4 c cs hescape hc hline =>
    by_cases hback : c = '\\'
    · -- a backslash in front of the closing quote would take it in
      subst hback
      obtain rfl : cs = [] := by
        obtain _ | ⟨d, cs⟩ := cs
        · rfl
        · exact (hescape d cs rfl rfl).elim
      rw [List.cons_append, List.nil_append, readLineBody, Option.map_eq_some_iff] at h
      obtain ⟨_, -, hpair⟩ := h
      cases hpair
    · rw [List.cons_append, readLineBody.eq_3 _ _ _ fun _ _ h => absurd h hback, if_neg hc, if_pos hline] at h
      cases h
  | case5 c cs _ hc hline ih =>
    have hback : c ≠ '\\' := fun hback => hline (.inr hback)
    rw [List.cons_append, readLineBody.eq_3 _ _ _ fun _ _ h => absurd h hback, if_neg hc, if_neg hline,
      Option.map_eq_some_iff] at h ⊢
    obtain ⟨⟨body, after⟩, hread, hpair⟩ := h
    cases hpair
    exact ⟨(cs, w), ih hread, rfl⟩

theorem readBlockBody_closed (hq : IsQuote q)
    (h : readBlockBody q (body ++ q :: q :: q :: rest) = some (body, rest)) (w : List Char) :
    readBlockBody q (body ++ q :: q :: q :: w) = some (body, w) := by
  have hslash : q ≠ '\\' := by obtain rfl | rfl := hq <;> decide
  have htake (cs r : List Char) : (cs ++ q :: q :: q :: r).take 2 = (cs ++ [q, q]).take 2 := by
    have hsplit : cs ++ q :: q :: q :: r = cs ++ [q, q] ++ q :: r := by simp
    rw [hsplit, List.take_append_of_le_length (by simp)]
  induction body using readBlockBody.induct q with
  | case1 =>
    rw [List.nil_append, readBlockBody.eq_3 _ _ _ fun _ _ hq => absurd hq hslash, if_pos ⟨rfl, rfl⟩]
    rfl
  | case2 c cs ih =>
    rw [List.cons_append, List.cons_append, readBlockBody, Option.map_eq_some_iff] at h ⊢
    obtain ⟨⟨body, after⟩, hread, hpair⟩ := h
    cases hpair
    exact ⟨(cs, w), ih hread, rfl⟩
  | case3 c cs _ hclose =>
    obtain ⟨rfl, hquotes⟩ := hclose
    have hshort : (cs ++ c :: c :: c :: rest).take 2 = [c, c] := by
      rw [List.take_append_of_le_length, hquotes]
      have := congrArg List.length hquotes
      rw [List.length_take] at this
      simp only [List.length_cons, List.length_nil] at this
      omega
    rw [List.cons_append, readBlockBody.eq_3 _ _ _ fun _ _ hq => absurd hq hslash, if_pos ⟨rfl, hshort⟩] at h
    cases h
  | case4 cs hescape =>
    obtain rfl : cs = [] := by
      obtain _ | ⟨d, cs⟩ := cs
      · rfl
      · exact (hescape d cs rfl rfl).elim
    rw [List.cons_append, List.nil_append, readBlockBody, Option.map_eq_some_iff] at h
    obtain ⟨_, -, hpair⟩ := h
    cases hpair
  | case5 c cs _ _ hback ih =>
    rw [List.cons_append, readBlockBody.eq_3 _ _ _ fun _ _ h => absurd h hback] at h ⊢
    rw [htake] at h ⊢
    split_ifs at h ⊢
    · cases h
    · rw [Option.map_eq_some_iff] at h ⊢
      obtain ⟨⟨body, after⟩, hread, hpair⟩ := h
      cases hpair
      exact ⟨(cs, w), ih hread, rfl⟩

theorem quotedBody_local (hq : IsQuote q) (h : quotedBody q (as ++ '_' :: u) = some (body, bs ++ '_' :: u))
    {w : List Char} (hw : q ∉ w.head?) : quotedBody q (as ++ w) = some (body, bs ++ w) := by
  have hscore : '_' ≠ q := by obtain rfl | rfl := hq <;> decide
  unfold quotedBody at h ⊢
  split_ifs at h with htriple
  · -- the underscore is none of the quotes that open the text
    obtain ⟨as, rfl⟩ : ∃ as', as = q :: q :: as' := by
      match as, htriple with
      | [], htriple => exact absurd (List.cons.inj htriple).1 hscore
      | [a], htriple => exact absurd (List.cons.inj (List.cons.inj htriple).2).1 hscore
      | a :: b :: as, htriple =>
        obtain ⟨rfl, hb⟩ := List.cons.inj htriple
        exact ⟨as, by rw [(List.cons.inj hb).1]⟩
    have hread : readBlockBody q (as ++ '_' :: u) = some (body, bs ++ '_' :: u) := h
    have hsplit : as ++ '_' :: u = body ++ q :: q :: q :: bs ++ '_' :: u := by
      rw [readBlockBody_eq hread, List.append_assoc]
      rfl
    obtain rfl := List.append_cancel_right hsplit
    rw [List.append_assoc] at hread
    have hclosed := readBlockBody_closed hq hread (bs ++ w)
    simpa using hclosed
  · have hsplit : as ++ '_' :: u = body ++ q :: bs ++ '_' :: u := by
      rw [readLineBody_eq h, List.append_assoc]
      rfl
    obtain rfl := List.append_cancel_right hsplit
    rw [List.append_assoc] at h
    have hclosed := readLineBody_closed hq h (bs ++ w)
    rw [if_neg, List.append_assoc]
    · exact hclosed
    · by_cases hlong : 2 ≤ (body ++ q :: bs).length
      · rwa [List.take_append_of_le_length hlong] at htriple ⊢
      · obtain ⟨rfl, rfl⟩ : body = [] ∧ bs = [] := by
          rw [List.length_append, List.length_cons] at hlong
          exact ⟨List.eq_nil_of_length_eq_zero (by omega), List.eq_nil_of_length_eq_zero (by omega)⟩
        obtain _ | ⟨c, w⟩ := w
        · nofun
        · rintro htake
          cases htake
          exact hw rfl

/-- **A quoted text is read without regard to a word after it.** -/
theorem readQuoted_local {marks : QuoteMarks} (hq : IsQuote q)
    (h : readQuoted marks q (as ++ '_' :: u) = some (t, bs ++ '_' :: u)) {w : List Char} (hw : q ∉ w.head?) :
    readQuoted marks q (as ++ w) = some (t, bs ++ w) := by
  rw [readQuoted_eq] at h ⊢
  obtain ⟨⟨body, after⟩, hbody, htoken⟩ := Option.bind_eq_some_iff.mp h
  obtain ⟨token, hquoted, hpair⟩ := Option.map_eq_some_iff.mp htoken
  cases hpair
  rw [quotedBody_local hq hbody hw, Option.bind_some]
  dsimp only
  rw [hquoted, Option.map_some]

theorem quotedBody_suffix (h : quotedBody q cs = some (body, rest)) : q :: rest <:+ cs := by
  unfold quotedBody at h
  split_ifs at h
  · have hsplit := readBlockBody_eq h
    have hdrop : q :: rest <:+ cs.drop 2 := ⟨body ++ [q, q], by simp [hsplit]⟩
    exact hdrop.trans (List.drop_suffix 2 cs)
  · exact ⟨body, (readLineBody_eq h).symm⟩

theorem readQuoted_suffix {marks : QuoteMarks} (h : readQuoted marks q cs = some (t, rest)) : q :: rest <:+ cs := by
  obtain ⟨body, hbody⟩ := readQuoted_eq_some h
  exact quotedBody_suffix hbody

theorem readWord_suffix (h : readWord cs = some (t, rest)) : rest <:+ cs.dropWhile isWordChar := by
  have hplain {word after : List Char} (h : (wordToken? word).map (·, after) = some (t, rest)) :
      rest <:+ after := by
    obtain ⟨token, -, hpair⟩ := Option.map_eq_some_iff.mp h
    cases hpair
    exact List.suffix_rfl
  unfold readWord at h
  dsimp only at h
  split at h
  · rename_i q r hr
    split_ifs at h
    · split at h
      · rw [hr]
        exact ((List.suffix_cons q rest).trans (readQuoted_suffix h)).trans (List.suffix_cons q r)
      · exact hplain h
    · exact hplain h
  · exact hplain h

/-- **A word is read without regard to one after it.** -/
theorem readWord_local (as : List Char) (h : readWord (as ++ '_' :: u) = some (t, bs ++ '_' :: u))
    {w : List Char} (hw : ∀ c ∈ w.head?, ¬IsQuote c) : readWord (as ++ w) = some (t, bs ++ w) := by
  rcases has : as.dropWhile isWordChar with _ | ⟨d, as'⟩
  · -- the word would take in the underscore
    have hsuffix := readWord_suffix h
    rw [dropWhile_append_of_nil has, List.dropWhile_cons_of_pos rfl] at hsuffix
    have hlen := (hsuffix.trans (List.dropWhile_suffix isWordChar)).length_le
    simp only [List.length_append, List.length_cons] at hlen
    omega
  · obtain ⟨htake, hdrop⟩ := span_append (h := has ▸ List.cons_ne_nil d as') ('_' :: u)
    obtain ⟨htake', hdrop'⟩ := span_append (h := has ▸ List.cons_ne_nil d as') w
    rw [has, List.cons_append] at hdrop hdrop'
    have hplain (h : (wordToken? (as.takeWhile isWordChar)).map (·, d :: (as' ++ '_' :: u)) =
        some (t, bs ++ '_' :: u)) :
        (wordToken? (as.takeWhile isWordChar)).map (·, d :: (as' ++ w)) = some (t, bs ++ w) := by
      obtain ⟨token, htoken, hpair⟩ := Option.map_eq_some_iff.mp h
      obtain ⟨rfl, hrest⟩ := Prod.mk.inj hpair
      rw [← List.cons_append] at hrest ⊢
      rw [htoken, List.append_cancel_right hrest, Option.map_some]
    unfold readWord at h ⊢
    rw [htake, hdrop] at h
    rw [htake', hdrop']
    dsimp only at h ⊢
    split_ifs at h ⊢ with hq
    · split at h
      · exact readQuoted_local hq h fun hmem => hw _ hmem hq
      · exact hplain h
    · exact hplain h

theorem find?_operator (hc : isWordChar c = true) (w : List Char) :
    operators.find? (fun s => s.toList.isPrefixOf (as ++ c :: w)) =
      operators.find? (fun s => s.toList.isPrefixOf as) := by
  have hwords : ∀ s ∈ operators, ∀ d ∈ s.toList, isWordChar d = false := by decide
  refine List.find?_congr fun s hs => isPrefixOf_append (fun hmem => ?_) w
  rw [hwords s hs c hmem] at hc
  cases hc

theorem lineStarts_word (hc : isWordChar c = true) (indented : Bool) (w : List Char) :
    lineStarts indented (c :: w) = !indented := by
  have hother : ∀ d ∈ [' ', '\t', '\x0c', '#', '\n', '\\'], isWordChar d = false := by decide
  have hne : ∀ d ∈ [' ', '\t', '\x0c', '#', '\n', '\\'], c ≠ d := by
    rintro d hd rfl
    rw [hother c hd] at hc
    cases hc
  simp only [List.forall_mem_cons] at hne
  rw [lineStarts]
  · simp [hne]
  · simp [hne]

theorem lineStarts_local {d : Char} (hc : isWordChar c = true) (hd : isWordChar d = true) (indented : Bool)
    (v w : List Char) : lineStarts indented (as ++ c :: v) = lineStarts indented (as ++ d :: w) := by
  -- a backslash at the end of the first part does not take in a line end
  have hjoin {a x : Char} {r y rest : List Char} (hescape : ∀ r', a = '\\' → r = '\n' :: r' → False)
      (hx : isWordChar x = true) (ha : a = '\\') : r ++ x :: y ≠ '\n' :: rest := by
    intro heq
    obtain _ | ⟨b, r⟩ := r
    · rw [(List.cons.inj heq).1] at hx
      cases hx
    · exact hescape r ha (by rw [(List.cons.inj heq).1])
  induction indented, as using lineStarts.induct with
  | case1 indented => rw [List.nil_append, List.nil_append, lineStarts_word hc, lineStarts_word hd]
  | case2 indented rest ih =>
    rw [List.cons_append, List.cons_append, List.cons_append, List.cons_append, lineStarts, lineStarts, ih]
  | case3 indented a as hescape hblank ih =>
    rw [List.cons_append, List.cons_append, lineStarts.eq_3 _ _ _ fun r ha => hjoin hescape hc ha,
      lineStarts.eq_3 _ _ _ fun r ha => hjoin hescape hd ha, if_pos hblank, if_pos hblank, ih]
  | case4 indented as hescape hblank ih =>
    rw [List.cons_append, List.cons_append, lineStarts.eq_3 _ _ _ fun r ha => hjoin hescape hc ha,
      lineStarts.eq_3 _ _ _ fun r ha => hjoin hescape hd ha, if_neg hblank, if_neg hblank, if_pos rfl, if_pos rfl, ih]
  | case5 indented a as hescape hblank hfeed =>
    rw [List.cons_append, List.cons_append, lineStarts.eq_3 _ _ _ fun r ha => hjoin hescape hc ha,
      lineStarts.eq_3 _ _ _ fun r ha => hjoin hescape hd ha, if_neg hblank, if_neg hblank, if_neg hfeed, if_neg hfeed]

end Gabarit.Expression
