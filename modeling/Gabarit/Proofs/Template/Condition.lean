import Gabarit.Proofs.Template.Path
import Gabarit.Template.Condition

/-!
# Reading conditions

* `HasEquality`: two equality signs stand somewhere in a text;
* `splitEquality?_eq_none`, `splitEquality?_append`: where a text is divided;
* `readParts_cut`, `parse_cut`: a path that is cut at an equality sign is refused;
* **`parse_comparison`**: a path and a literal are read as a condition unless one of them holds two equality
  signs.
-/

namespace Gabarit

open Text

theorem Scalar.parse_congr {s s' : String} (h : trim s.toList = trim s'.toList) :
    Scalar.parse s = Scalar.parse s' := by
  unfold Scalar.parse
  rw [h]

theorem FieldPath.parse_congr {s s' : String} (h : trim s.toList = trim s'.toList) :
    FieldPath.parse s = FieldPath.parse s' := by
  unfold FieldPath.parse
  rw [h]

/-! ## Cutting a path -/

variable {cs as bs : List Char} {c : Char}

theorem append_eq_append_cons {pre suf : List Char} (h : as ++ bs = pre ++ c :: suf) :
    (∃ pre', pre = as ++ pre' ∧ bs = pre' ++ c :: suf) ∨ pre <+: as ∧ c ∈ as := by
  obtain ⟨pre', hpre, hbs⟩ | ⟨as', has, hcons⟩ := List.append_eq_append_iff.mp h
  · exact .inl ⟨pre', hpre, hbs⟩
  · obtain _ | ⟨d, as'⟩ := as'
    · exact .inl ⟨[], by simpa using has.symm, hcons.symm⟩
    · cases hcons
      exact .inr ⟨⟨_, has.symm⟩, has ▸ List.mem_append_right _ List.mem_cons_self⟩

theorem append_eq_append_cons_of_not_mem {pre suf : List Char} (hc : c ∉ as) (h : as ++ bs = pre ++ c :: suf) :
    ∃ pre', pre = as ++ pre' ∧ bs = pre' ++ c :: suf :=
  (append_eq_append_cons h).resolve_right fun h => hc h.2

namespace FieldPath

open Artifact.Numeral (signChars)

variable {parts : List PathPart} {pre suf rest : List Char} {q : Char}

theorem readParts_open (hq : IsQuote q) (h : q ∉ cs) (expr : String) (fuel : ℕ) :
    readParts expr fuel ('[' :: q :: cs) = .error (.tag expr .invalidPath) := by
  obtain _ | fuel := fuel
  · rfl
  · have hkey : readKey (q :: cs) = none := by
      rw [Option.eq_none_iff_forall_not_mem]
      rintro ⟨q', body, rest⟩ hread
      obtain ⟨-, -, hcs⟩ := readKey_eq_some.mp hread
      obtain ⟨rfl, rfl⟩ := List.cons.inj hcs
      exact h (List.mem_append_right _ List.mem_cons_self)
    rw [readParts, if_neg (by simp), if_pos rfl, readIndex_quote hq, hkey]

theorem Steps.head_trimEnd (h : Steps (pre ++ '=' :: suf) parts) :
    ∀ c ∈ (trimEnd pre).head?, isAsciiContinue c = false := by
  intro c hc
  obtain ⟨rest, hrest⟩ := trimEnd_isPrefix pre
  refine h.head c ?_
  rw [← hrest, List.append_assoc, List.head?_append, hc]
  rfl

/-- **A path that is cut before an equality sign is refused.** -/
theorem readParts_cut (h : Steps cs parts) (hcs : cs = pre ++ '=' :: suf) (expr : String) (fuel : ℕ) :
    readParts expr fuel (trimEnd pre) = .error (.tag expr .invalidPath) := by
  induction h generalizing pre fuel with
  | done => simp at hcs
  | @name n rest parts hn hrest ih =>
    rw [← List.cons_append] at hcs
    have hequal : '=' ∉ '.' :: n := by
      rw [List.mem_cons, not_or]
      exact ⟨by decide, hn.not_mem (by decide)⟩
    obtain ⟨pre, rfl, rfl⟩ := append_eq_append_cons_of_not_mem hequal hcs
    have hlast : ∀ c ∈ '.' :: n, isBlank c = false := by
      rw [List.forall_mem_cons]
      exact ⟨by decide, fun c hc => isBlank_of_isAsciiContinue (hn.isAsciiContinue c hc)⟩
    rw [trimEnd_append fun c hc => hlast c (List.mem_of_mem_getLast? hc)]
    obtain _ | fuel := fuel
    · rfl
    · rw [List.cons_append, readParts_name hn hrest.head_trimEnd, ih rfl]
      rfl
  | @index ds rest parts negative hne hds hlen hrest ih =>
    rw [← List.append_assoc, ← List.cons_append, List.append_cons] at hcs
    have hequal : '=' ∉ '[' :: (signChars negative ++ ds) ++ [']'] := by
      have hsign : '=' ∉ signChars negative := by cases negative <;> decide
      have hdigit : '=' ∉ ds := fun hmem => absurd (hds _ hmem) (by decide)
      simp [hsign, hdigit]
    obtain ⟨pre, rfl, rfl⟩ := append_eq_append_cons_of_not_mem hequal hcs
    rw [← List.append_cons, trimEnd_step (by decide)]
    obtain _ | fuel := fuel
    · rfl
    · rw [List.cons_append, List.append_assoc, readParts_index ⟨hne, hds⟩, indexPart_eq_ok.mpr ⟨hlen, rfl⟩,
        Except.bind, ih rfl]
      rfl
  | @key q body s rest parts hq hbody hs hrest ih =>
    have hne : '=' ≠ q := by obtain rfl | rfl := hq <;> decide
    have hopen : '=' ∉ ['[', q] := by simp [hne]
    obtain ⟨b, rfl, hb⟩ := append_eq_append_cons_of_not_mem hopen hcs
    obtain ⟨pre, rfl, hpre⟩ | ⟨hstart, -⟩ := append_eq_append_cons hb
    · -- the key is whole, and a later step is cut
      have hclose : '=' ∉ [q, ']'] := by simp [hne]
      obtain ⟨pre, rfl, rfl⟩ := append_eq_append_cons_of_not_mem hclose hpre
      have htrim : trimEnd (['[', q] ++ (body ++ ([q, ']'] ++ pre))) =
          '[' :: q :: (body ++ q :: ']' :: trimEnd pre) := by
        have hstep := trimEnd_step (show isBlank ']' = false by decide) ('[' :: q :: (body ++ [q])) pre
        simpa using hstep
      rw [htrim]
      obtain _ | fuel := fuel
      · rfl
      · rw [readParts_key hq hbody, (keyPart_eq_ok hq hbody).mpr ⟨_, hs, rfl⟩, Except.bind, ih rfl]
        rfl
    · -- the key itself is cut
      have hblank : isBlank q = false := by obtain rfl | rfl := hq <;> decide
      have htrim := trimEnd_step hblank ['['] b
      rw [List.singleton_append, List.singleton_append] at htrim
      rw [List.cons_append, List.singleton_append, htrim]
      exact readParts_open hq (fun hmem => hbody (hstart.subset ((trimEnd_isPrefix b).subset hmem))) expr fuel

/-- **A path that is read is refused if it is cut before an equality sign.** -/
theorem parse_cut {s : String} {path : FieldPath} (h : parse s = .ok path) (hs : s.toList = pre ++ '=' :: suf) :
    parse (String.ofList pre) = .error (.tag (String.ofList (trim pre)) .invalidPath) := by
  obtain ⟨-, n, rest, steps, hcs, hn, hsteps, -⟩ := parse_eq_ok.mp h
  have htrim : trim s.toList = trimStart pre ++ '=' :: trimEnd suf := by
    have hstart : trimStart (pre ++ '=' :: suf) = trimStart pre ++ '=' :: suf := by
      rw [trimStart, trimStart, List.dropWhile_append]
      split_ifs with hblank
      · rw [List.isEmpty_iff] at hblank
        rw [hblank, List.dropWhile_cons_of_neg (by decide), List.nil_append]
      · rfl
    rw [hs, trim, hstart, trimEnd_step (by decide)]
  rw [htrim] at hcs
  obtain ⟨later, hpre, rfl⟩ := append_eq_append_cons_of_not_mem (hn.not_mem (by decide)) hcs.symm
  have hkept : trim pre = n ++ trimEnd later := by
    rw [trim, hpre, trimEnd_append fun c hc =>
      isBlank_of_isAsciiContinue (hn.isAsciiContinue c (List.mem_of_mem_getLast? hc))]
  obtain ⟨htake, hdrop⟩ := hn.span hsteps.head_trimEnd
  have hread := readParts_cut hsteps rfl
  obtain ⟨c, ds, rfl, hc⟩ := hn.exists_cons
  rw [List.cons_append] at htake hdrop hkept
  unfold parse
  rw [String.toList_ofList, hkept]
  dsimp only
  rw [if_pos hc, hdrop, hread]
  rfl

end FieldPath

namespace Condition

variable {left right : List Char}

/-- Two equality signs stand one after the other. -/
def HasEquality (cs : List Char) : Prop := ['=', '='] <:+: cs

instance : DecidablePred HasEquality := fun cs => inferInstanceAs (Decidable (['=', '='] <:+: cs))

theorem splitEquality?_eq_some (h : splitEquality? cs = some (left, right)) :
    cs = left ++ '=' :: '=' :: right := by
  induction cs using splitEquality?.induct generalizing left with
  | case1 rest =>
    cases h
    rfl
  | case2 c rest hnot ih =>
    rw [splitEquality?.eq_2 _ _ hnot, Option.map_eq_some_iff] at h
    obtain ⟨⟨left, right⟩, hsplit, hpair⟩ := h
    cases hpair
    rw [ih hsplit]
    rfl
  | case3 => cases h

theorem splitEquality?_isSome : (splitEquality? cs).isSome = true ↔ HasEquality cs := by
  constructor
  · intro h
    obtain ⟨⟨left, right⟩, hsplit⟩ := Option.isSome_iff_exists.mp h
    exact ⟨left, right, by simpa using (splitEquality?_eq_some hsplit).symm⟩
  · rintro ⟨left, right, rfl⟩
    induction left with
    | nil => rfl
    | cons c left ih =>
      rw [List.cons_append, List.cons_append]
      unfold splitEquality?
      split
      · rfl
      · rename_i hcons
        cases hcons
        rw [Option.isSome_map]
        exact ih
      · rename_i hcons
        cases hcons

/-- **A text is divided at its first two equality signs.** -/
theorem splitEquality?_append (h : ¬HasEquality (left ++ ['='])) (right : List Char) :
    splitEquality? (left ++ '=' :: '=' :: right) = some (left, right) := by
  induction left with
  | nil => rfl
  | cons c left ih =>
    have hleft : ¬HasEquality (left ++ ['=']) := fun hmem => h (hmem.trans (List.suffix_cons c _).isInfix)
    have hnot : ∀ rest, c = '=' → left ++ '=' :: '=' :: right = '=' :: rest → False := by
      rintro rest rfl hrest
      refine h (List.IsPrefix.isInfix ?_)
      obtain _ | ⟨d, left⟩ := left
      · exact List.prefix_rfl
      · obtain rfl := (List.cons.inj hrest).1
        exact ⟨left ++ ['='], rfl⟩
    rw [List.cons_append, splitEquality?.eq_2 _ _ hnot, ih hleft]
    rfl

theorem splitEquality?_append_right (h : splitEquality? cs = some (left, right)) (bs : List Char) :
    splitEquality? (cs ++ bs) = some (left, right ++ bs) := by
  induction cs using splitEquality?.induct generalizing left with
  | case1 rest =>
    cases h
    rfl
  | case2 c rest hnot ih =>
    rw [splitEquality?.eq_2 _ _ hnot, Option.map_eq_some_iff] at h
    obtain ⟨⟨left, right⟩, hsplit, hpair⟩ := h
    cases hpair
    have hnot' : ∀ r, c = '=' → rest ++ bs = '=' :: r → False := by
      intro r hc hr
      obtain _ | ⟨d, rest⟩ := rest
      · cases hsplit
      · obtain rfl := (List.cons.inj hr).1
        exact hnot rest hc rfl
    rw [List.cons_append, splitEquality?.eq_2 _ _ hnot', ih hsplit]
    rfl
  | case3 => cases h

theorem hasEquality_append_cons (hc : c ≠ '=') :
    HasEquality (as ++ c :: bs) ↔ HasEquality as ∨ HasEquality bs := by
  induction as with
  | nil => simp [HasEquality, List.infix_cons_iff, List.cons_prefix_cons, hc.symm]
  | cons a as ih =>
    have hstart : ['=', '='] <+: a :: (as ++ c :: bs) ↔ ['=', '='] <+: a :: as := by
      obtain _ | ⟨d, as⟩ := as <;> simp [List.cons_prefix_cons, hc.symm]
    have hcons (l : List Char) : HasEquality (a :: l) ↔ ['=', '='] <+: a :: l ∨ HasEquality l :=
      List.infix_cons_iff
    rw [List.cons_append, hcons, hstart, ih, hcons, or_assoc]

theorem parse_eq_of_none {s : String} (h : ¬HasEquality s.toList) {path : FieldPath}
    (hpath : FieldPath.parse s = .ok path) : parse s = .ok ⟨path, false, .null⟩ := by
  have hsplit : splitEquality? s.toList = none := by
    rwa [← Option.not_isSome_iff_eq_none, splitEquality?_isSome]
  rw [parse, hsplit, hpath]
  rfl

theorem parse_many {s : String} (hsplit : splitEquality? s.toList = some (left, right)) (h : HasEquality right) :
    parse s = .error (.tag s .manyComparisons) := by
  rw [parse, hsplit]
  dsimp only
  rw [if_pos (splitEquality?_isSome.mpr h)]

/-- **A path and a literal are read as a condition exactly if neither of them holds two equality signs.** -/
theorem parse_comparison {p l : String} {path : FieldPath} {v : Scalar} (hp : FieldPath.parse p = .ok path)
    (hl : Scalar.parse l = .ok v) :
    (¬HasEquality p.toList → ¬HasEquality l.toList → parse (p ++ " == " ++ l) = .ok ⟨path, true, v⟩) ∧
    (HasEquality p.toList ∨ HasEquality l.toList →
      parse (p ++ " == " ++ l) = .error (.tag (p ++ " == " ++ l) .manyComparisons)) ∧
    (¬HasEquality p.toList → parse p = .ok ⟨path, false, .null⟩) ∧
    (HasEquality p.toList → ∃ token cause, parse p = .error (.tag token cause)) := by
  have htext : (p ++ " == " ++ l).toList = (p.toList ++ [' ']) ++ '=' :: '=' :: ' ' :: l.toList := by
    simp
  have hleft : HasEquality (p.toList ++ [' '] ++ ['=']) ↔ HasEquality p.toList := by
    rw [← List.append_cons, hasEquality_append_cons (by decide)]
    exact or_iff_left (by decide)
  have hright : HasEquality (' ' :: l.toList) ↔ HasEquality l.toList := by
    simp [HasEquality, List.infix_cons_iff, List.cons_prefix_cons]
  have hsplit (h : ¬HasEquality p.toList) :
      splitEquality? (p ++ " == " ++ l).toList = some (p.toList ++ [' '], ' ' :: l.toList) := by
    rw [htext, splitEquality?_append (hleft.not.mpr h)]
  refine ⟨fun hnp hnl => ?_, fun hmany => ?_, fun hnp => ?_, fun hep => ?_⟩
  · have hpath : FieldPath.parse (String.ofList (p.toList ++ [' '])) = .ok path := by
      rw [← hp]
      refine FieldPath.parse_congr ?_
      rw [String.toList_ofList, trim_append_blank (by decide)]
    have hliteral : Scalar.parse (String.ofList (' ' :: l.toList)) = .ok v := by
      rw [← hl]
      refine Scalar.parse_congr ?_
      rw [String.toList_ofList, trim_cons_blank (by decide)]
    rw [parse, hsplit hnp]
    dsimp only
    rw [if_neg (splitEquality?_isSome.not.mpr (hright.not.mpr hnl)), hpath]
    simp only [hliteral, bind, Except.bind]
    rfl
  · by_cases hep : HasEquality p.toList
    · obtain ⟨⟨left, right⟩, hp'⟩ := Option.isSome_iff_exists.mp (splitEquality?_isSome.mpr hep)
      refine parse_many (by rw [htext, List.append_assoc, splitEquality?_append_right hp']) ?_
      exact ⟨right ++ [' '], ' ' :: l.toList, by simp⟩
    · exact parse_many (hsplit hep) (hright.mpr (hmany.resolve_left hep))
  · exact parse_eq_of_none hnp hp
  · obtain ⟨⟨left, right⟩, hp'⟩ := Option.isSome_iff_exists.mp (splitEquality?_isSome.mpr hep)
    by_cases hmany : HasEquality right
    · exact ⟨_, _, parse_many hp' hmany⟩
    · refine ⟨String.ofList (trim left), .invalidPath, ?_⟩
      rw [parse, hp']
      dsimp only
      rw [if_neg (splitEquality?_isSome.not.mpr hmany),
        FieldPath.parse_cut hp (splitEquality?_eq_some hp')]
      rfl

/-- A path and a text without equality signs are read, and a key with two of them is refused. -/
theorem parse_comparison_status :
    parse "user.status == 'a=b'" = .ok ⟨⟨"user.status", [.name "user", .name "status"]⟩, true, .text "a=b"⟩ ∧
      parse "row['a==b'] == 'a=b'" = .error (.tag "row['a==b'] == 'a=b'" .manyComparisons) := by
  have hplain : FieldPath.parse "user.status" = .ok ⟨"user.status", [.name "user", .name "status"]⟩ := by
    decide +kernel
  have hkey : FieldPath.parse "row['a==b']" = .ok ⟨"row['a==b']", [.name "row", .name "a==b"]⟩ := by
    decide +kernel
  have hliteral : Scalar.parse "'a=b'" = .ok (.text "a=b") := by decide +kernel
  exact ⟨(parse_comparison hplain hliteral).1 (by decide) (by decide),
    (parse_comparison hkey hliteral).2.1 (.inl (by decide))⟩

/-- A path with a key that holds two equality signs is refused as a condition, and so is a comparison with a
text that holds them. -/
theorem exists_refused :
    (∃ (p : String) (path : FieldPath) (cause : Failure),
      FieldPath.parse p = .ok path ∧ parse p = .error cause) ∧
    ∃ (p l : String) (path : FieldPath) (v : Scalar) (cause : Failure),
      FieldPath.parse p = .ok path ∧ Scalar.parse l = .ok v ∧ parse (p ++ " == " ++ l) = .error cause := by
  refine ⟨⟨"row['a==b']", ⟨"row['a==b']", [.name "row", .name "a==b"]⟩, .tag "row['a" .invalidPath, ?_, ?_⟩,
    "status", "'a==b'", ⟨"status", [.name "status"]⟩, .text "a==b",
    .tag "status == 'a==b'" .manyComparisons, ?_, ?_, ?_⟩ <;> decide +kernel

end Condition

end Gabarit
