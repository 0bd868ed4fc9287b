import Gabarit.Proofs.Expression.Written
import Gabarit.Proofs.Outcome
import Gabarit.Proofs.Text.Blank
import Gabarit.Proofs.Text.Lines
import Gabarit.Template.Path

/-!
# The grammar of field paths

* `Steps`, `Grammar`: the texts that are paths, and the parts that they stand for;
* `readIndex_eq_some`, `readKey_eq_some`, `keyPart_eq_ok`: what is read between brackets;
* `readParts_cases`, `readParts_eq_ok`: the step at the start of a text, and all steps;
* `Written`, `Written.steps`: how parts are written, and that this stands for them;
* **`parse_grammar`**: paths are read exactly from the texts of the grammar, and back from what is written
  for their parts.
-/

namespace Gabarit

open Text

/-- The characters are a literal of a text. -/
def TextLiteral (cs : List Char) (ps : List Point) : Prop :=
  '\x00' ∉ cs ∧ ∃ e, Expression.parse cs = some e ∧ e.evaluate = .ok (.scalar (.ofPoints ps))

theorem Scalar.ofPoints_inj {ps ps' : List Point} :
    Scalar.ofPoints ps = .ofPoints ps' ↔ Text.ofPoints ps = Text.ofPoints ps' := by
  unfold Scalar.ofPoints
  cases Text.ofPoints ps <;> cases Text.ofPoints ps' <;> simp

theorem Value.written_ofPoints (ps : List Point) :
    (Value.ofPoints ps).written = .ok (String.ofList (quotedPoints ps)) := by
  obtain ⟨t, rfl⟩ : ∃ t, ps = points t := ⟨Text.ofPoints ps, (points_ofPoints ps).symm⟩
  rw [Value.ofPoints, ofPoints_points]
  cases t <;> rfl

namespace FieldPath

open Artifact.Numeral (signChars)

/-- The steps after the first name of a path as they are written, and the parts that they stand for. -/
inductive Steps : List Char → List PathPart → Prop
  | done : Steps [] []
  | name {n rest : List Char} {parts : List PathPart} : AsciiName n → Steps rest parts →
    Steps ('.' :: (n ++ rest)) (.name (String.ofList n) :: parts)
  | index {ds rest : List Char} {parts : List PathPart} (negative : Bool) :
    ds ≠ [] → (∀ d ∈ ds, isDigit d = true) → ds.length ≤ digitLimit → Steps rest parts →
    Steps ('[' :: (signChars negative ++ (ds ++ ']' :: rest)))
      (.index (if negative then -(numeralValue ds : Int) else numeralValue ds) :: parts)
  | key {q : Char} {body rest : List Char} {ps : List Point} {parts : List PathPart} :
    IsQuote q → q ∉ body → TextLiteral (q :: (body ++ [q])) ps → Steps rest parts →
    Steps ('[' :: q :: (body ++ q :: ']' :: rest)) (.ofPoints ps :: parts)

variable {cs ds rest body : List Char} {q : Char} {negative : Bool} {parts : List PathPart}

/-! ## Indexes -/

/-- Reads an index after its sign. -/
def readUnsigned (negative : Bool) (cs : List Char) : Option (Bool × List Char × List Char) :=
  match cs.takeWhile isDigit, cs.dropWhile isDigit with
  | [], _ => none
  | ds, ']' :: rest => some (negative, ds, rest)
  | _, _ => none

theorem readIndex_minus (cs : List Char) : readIndex ('-' :: cs) = readUnsigned true cs := rfl

theorem readIndex_unsigned (h : ∀ r, cs ≠ '-' :: r) : readIndex cs = readUnsigned false cs := by
  simp only [readIndex]
  rfl

theorem readUnsigned_eq_some {sign : Bool} : readUnsigned negative cs = some (sign, ds, rest) ↔
    sign = negative ∧ (ds ≠ [] ∧ ∀ d ∈ ds, isDigit d = true) ∧ cs = ds ++ ']' :: rest := by
  constructor
  · intro h
    unfold readUnsigned at h
    split at h
    · cases h
    · rename_i rest' hdrop hne
      cases h
      refine ⟨rfl, ⟨hne, fun d hd => List.all_eq_true.mp List.all_takeWhile d hd⟩, ?_⟩
      rw [← hdrop, List.takeWhile_append_dropWhile]
    · cases h
  · rintro ⟨rfl, ⟨hne, hds⟩, rfl⟩
    have htake : (ds ++ ']' :: rest).takeWhile isDigit = ds := by
      rw [List.takeWhile_append_of_pos hds, List.takeWhile_cons_of_neg (by decide), List.append_nil]
    have hdrop : (ds ++ ']' :: rest).dropWhile isDigit = ']' :: rest := by
      rw [List.dropWhile_append_of_pos hds, List.dropWhile_cons_of_neg (by decide)]
    obtain ⟨d, ds, rfl⟩ := List.exists_cons_of_ne_nil hne
    simp only [readUnsigned, htake, hdrop]

/-- **An index is read exactly where its sign, its digits and the closing bracket stand.** -/
theorem readIndex_eq_some : readIndex cs = some (negative, ds, rest) ↔
    (ds ≠ [] ∧ ∀ d ∈ ds, isDigit d = true) ∧ cs = signChars negative ++ (ds ++ ']' :: rest) := by
  by_cases hminus : ∃ r, cs = '-' :: r
  · obtain ⟨r, rfl⟩ := hminus
    rw [readIndex_minus, readUnsigned_eq_some]
    cases negative with
    | true => simp [signChars]
    | false =>
      -- a digit stands in front, which is no sign
      simp only [signChars, Bool.false_eq_true, if_false, List.nil_append]
      refine ⟨fun h => absurd h.1 (by decide), ?_⟩
      rintro ⟨⟨hne, hds⟩, hcs⟩
      obtain ⟨d, ds, rfl⟩ := List.exists_cons_of_ne_nil hne
      cases hcs
      exact absurd (hds _ List.mem_cons_self) (by decide)
  · rw [not_exists] at hminus
    rw [readIndex_unsigned hminus, readUnsigned_eq_some]
    cases negative with
    | true =>
      refine ⟨fun h => absurd h.1 (by decide), ?_⟩
      rintro ⟨-, rfl⟩
      exact absurd rfl (hminus _)
    | false => simp [signChars]

/-! ## Keys -/

theorem readKey_eq_some : readKey cs = some (q, body, rest) ↔
    IsQuote q ∧ q ∉ body ∧ cs = q :: (body ++ q :: ']' :: rest) := by
  constructor
  · intro h
    obtain _ | ⟨c, cs⟩ := cs
    · cases h
    · unfold readKey at h
      dsimp only at h
      split_ifs at h with hq
      split at h
      · rename_i d rest' hdrop
        cases h
        have hd : d = q := by
          have := List.head?_dropWhile_not (fun c => decide (c ≠ q)) cs
          rw [hdrop] at this
          simpa using this
        refine ⟨hq, fun hmem => ?_, ?_⟩
        · have := List.all_eq_true.mp List.all_takeWhile q hmem
          simp at this
        · subst hd
          rw [← hdrop, List.takeWhile_append_dropWhile]
      · cases h
  · rintro ⟨hq, hbody, rfl⟩
    have hne : ∀ c ∈ body, decide (c ≠ q) = true := by
      intro c hc
      rw [decide_eq_true_iff]
      rintro rfl
      exact hbody hc
    have hstop : ¬decide (q ≠ q) = true := by simp
    have hdrop : (body ++ q :: ']' :: rest).dropWhile (fun c => decide (c ≠ q)) = q :: ']' :: rest := by
      rw [List.dropWhile_append_of_pos hne, List.dropWhile_cons_of_neg (p := fun c => decide (c ≠ q)) hstop]
    have htake : (body ++ q :: ']' :: rest).takeWhile (fun c => decide (c ≠ q)) = body := by
      rw [List.takeWhile_append_of_pos hne,
        List.takeWhile_cons_of_neg (p := fun c => decide (c ≠ q)) hstop, List.append_nil]
    unfold readKey
    simp only [hdrop, htake, ite_eq_left_iff]
    exact fun h => absurd hq h

theorem quote_not_mem_unifyLines (hq : IsQuote q) (h : q ∉ body) : q ∉ unifyLines body := by
  intro hmem
  obtain rfl | hmem := mem_of_mem_unifyLines hmem
  · obtain hq | hq := hq <;> cases hq
  · exact h hmem

theorem append_quote_inj {body body' rest : List Char} (h : body ++ [q] = body' ++ q :: rest)
    (hq : q ∉ body) : body' = body ∧ rest = [] := by
  obtain ⟨as, hbody, hrest⟩ | ⟨as, hbody, hrest⟩ := List.append_eq_append_iff.mp h
  · obtain _ | ⟨a, as⟩ := as
    · rw [List.nil_append] at hrest
      cases hrest
      exact ⟨by rw [hbody, List.append_nil], rfl⟩
    · have := congrArg List.length hrest
      simp at this
  · obtain _ | ⟨a, as⟩ := as
    · rw [List.nil_append] at hrest
      cases hrest
      exact ⟨by rw [hbody, List.append_nil], rfl⟩
    · cases hrest
      exact absurd (hbody ▸ List.mem_append_right _ List.mem_cons_self) hq

theorem readQuoted_closed {t : Expression.Token} (h : q ∉ body)
    (hread : Expression.readQuoted {} q (body ++ [q]) = some (t, rest)) :
    rest = [] ∧ ∃ s, t = .text s := by
  rw [Expression.readQuoted_line, Expression.readQuoted.line, Option.bind_eq_some_iff] at hread
  · obtain ⟨⟨body', after⟩, hline, htoken⟩ := hread
    obtain ⟨rfl, rfl⟩ := append_quote_inj (Expression.readLineBody_eq hline) h
    simp only [Expression.quotedToken?, Bool.false_eq_true, if_false, Option.map_map,
      Option.map_eq_some_iff] at htoken
    obtain ⟨s, -, hpair⟩ := htoken
    cases hpair
    exact ⟨rfl, s, rfl⟩
  · rintro a b htake ⟨rfl, rfl⟩
    obtain _ | ⟨c, body⟩ := body
    · cases htake
    · obtain rfl := (List.cons.inj htake).1
      exact h List.mem_cons_self

theorem lex_quoted (hq : IsQuote q) (h : q ∉ body) :
    Expression.lex (q :: (body ++ [q])) =
      (Expression.readQuoted {} q (unifyLines body ++ [q])).map fun (t, _) => [t] := by
  have hunified : unifyLines (q :: (body ++ [q])) = q :: (unifyLines body ++ [q]) := by
    have hquote : '\n' ∉ [q].head? := by obtain rfl | rfl := hq <;> decide
    have hclosed := unifyLines_append hquote body
    obtain rfl | rfl := hq <;> exact congrArg _ hclosed
  have hstarts : Expression.lineStarts false (q :: (unifyLines body ++ [q])) = true := by
    obtain rfl | rfl := hq <;> rfl
  rw [Expression.lex, hunified]
  dsimp only
  rw [if_pos hstarts, Expression.lexFrom_quoted hq]
  cases hread : Expression.readQuoted {} q (unifyLines body ++ [q]) with
  | none => rfl
  | some r =>
    obtain ⟨t, rest⟩ := r
    obtain ⟨rfl, -⟩ := readQuoted_closed (quote_not_mem_unifyLines hq h) hread
    rfl

theorem parse_quoted (hq : IsQuote q) (h : q ∉ body) {ps : List Point}
    (hread : Expression.readQuoted {} q (unifyLines body ++ [q]) = some (.text ps, [])) :
    Expression.parse (q :: (body ++ [q])) = some (.scalar (.ofPoints ps)) :=
  Expression.Operand.parse (.plain rfl) (by rw [lex_quoted hq h, hread, Option.map_some])

/-- **A key stands for the text that the literal with its quotes is.** -/
theorem keyPart_eq_ok (hq : IsQuote q) (h : q ∉ body) {p : PathPart} :
    keyPart q body = .ok p ↔ ∃ ps, TextLiteral (q :: (body ++ [q])) ps ∧ p = .ofPoints ps := by
  have hnul : '\x00' ∈ q :: (body ++ [q]) ↔ '\x00' ∈ body := by
    have hne : '\x00' ≠ q := by obtain rfl | rfl := hq <;> decide
    simp [hne]
  constructor
  · intro hkey
    unfold keyPart at hkey
    split_ifs at hkey with hcontains
    split at hkey
    · rename_i ps hread
      cases hkey
      refine ⟨ps, ⟨?_, _, parse_quoted hq h hread, rfl⟩, rfl⟩
      rw [hnul]
      simpa using hcontains
    · cases hkey
  · rintro ⟨ps, ⟨hzero, e, hparse, heval⟩, rfl⟩
    rw [hnul] at hzero
    have hlex := hparse
    rw [Expression.parse, Option.bind_eq_some_iff] at hlex
    obtain ⟨ts, hlex, -⟩ := hlex
    rw [lex_quoted hq h, Option.map_eq_some_iff] at hlex
    obtain ⟨⟨t, rest⟩, hread, -⟩ := hlex
    obtain ⟨rfl, ps', rfl⟩ := readQuoted_closed (quote_not_mem_unifyLines hq h) hread
    rw [parse_quoted hq h hread] at hparse
    cases hparse
    rw [Expression.Expr.evaluate] at heval
    have htext : Text.ofPoints ps' = Text.ofPoints ps := Scalar.ofPoints_inj.mp (by simpa using heval)
    rw [keyPart, if_neg (by simpa using hzero), hread]
    simp only [PathPart.ofPoints, htext]

/-! ## Paths -/

variable {expr : String} {fuel : ℕ}

theorem readParts_name {n : List Char} (h : AsciiName n) (hrest : ∀ c ∈ rest.head?, isAsciiContinue c = false) :
    readParts expr (fuel + 1) ('.' :: (n ++ rest)) =
      (readParts expr fuel rest).map (.name (String.ofList n) :: ·) := by
  obtain ⟨htake, hdrop⟩ := h.span hrest
  obtain ⟨c, ds, rfl, hc⟩ := h.exists_cons
  rw [readParts, if_pos ⟨rfl, by rw [List.cons_append, List.head?_cons, Option.map_some, hc]; rfl⟩, htake,
    hdrop]

theorem readParts_index (hds : ds ≠ [] ∧ ∀ d ∈ ds, isDigit d = true) :
    readParts expr (fuel + 1) ('[' :: (signChars negative ++ (ds ++ ']' :: rest))) =
      (indexPart negative ds).bind fun p => (readParts expr fuel rest).map (p :: ·) := by
  have hread : readIndex (signChars negative ++ (ds ++ ']' :: rest)) = some (negative, ds, rest) :=
    readIndex_eq_some.mpr ⟨hds, rfl⟩
  rw [readParts, if_neg (by simp), if_pos rfl, hread]
  rfl

theorem readIndex_quote (hq : IsQuote q) (cs : List Char) : readIndex (q :: cs) = none := by
  have hminus : ∀ r, q :: cs ≠ '-' :: r := by
    rintro r ⟨⟩
    obtain hq | hq := hq <;> cases hq
  have hdigit : ¬isDigit q = true := by obtain rfl | rfl := hq <;> decide
  rw [readIndex_unsigned hminus, readUnsigned, List.takeWhile_cons_of_neg hdigit]

theorem readParts_key (hq : IsQuote q) (h : q ∉ body) :
    readParts expr (fuel + 1) ('[' :: q :: (body ++ q :: ']' :: rest)) =
      (keyPart q body).bind fun p => (readParts expr fuel rest).map (p :: ·) := by
  have hread : readKey (q :: (body ++ q :: ']' :: rest)) = some (q, body, rest) :=
    readKey_eq_some.mpr ⟨hq, h, rfl⟩
  rw [readParts, if_neg (by simp), if_pos rfl, hread, readIndex_quote hq]
  rfl

theorem readParts_cases (expr : String) (fuel : ℕ) (c : Char) (cs : List Char) :
    (∃ n rest, AsciiName n ∧ (∀ d ∈ rest.head?, isAsciiContinue d = false) ∧ c :: cs = '.' :: (n ++ rest)) ∨
    (∃ negative ds rest, (ds ≠ [] ∧ ∀ d ∈ ds, isDigit d = true) ∧
      c :: cs = '[' :: (signChars negative ++ (ds ++ ']' :: rest))) ∨
    (∃ q body rest, IsQuote q ∧ q ∉ body ∧ c :: cs = '[' :: q :: (body ++ q :: ']' :: rest)) ∨
    readParts expr (fuel + 1) (c :: cs) = .error (.tag expr .invalidPath) := by
  by_cases hname : c = '.' ∧ (cs.head?.map isAsciiStart).getD false = true
  · obtain ⟨rfl, hstart⟩ := hname
    refine .inl ⟨cs.takeWhile isAsciiContinue, cs.dropWhile isAsciiContinue, ?_, ?_, ?_⟩
    · obtain _ | ⟨d, cs⟩ := cs
      · cases hstart
      · have hd : isAsciiStart d = true := hstart
        rw [List.takeWhile_cons_of_pos (isAsciiContinue_of_start hd)]
        exact ⟨hd, List.all_eq_true.mp List.all_takeWhile⟩
    · exact head?_dropWhile_not isAsciiContinue cs
    · rw [List.takeWhile_append_dropWhile]
  · by_cases hopen : c = '['
    · subst hopen
      rw [readParts, if_neg hname, if_pos rfl]
      cases hindex : readIndex cs with
      | some r =>
        obtain ⟨negative, ds, rest⟩ := r
        obtain ⟨hds, rfl⟩ := readIndex_eq_some.mp hindex
        exact .inr (.inl ⟨negative, ds, rest, hds, rfl⟩)
      | none =>
        cases hkey : readKey cs with
        | some r =>
          obtain ⟨q, body, rest⟩ := r
          obtain ⟨hq, hbody, rfl⟩ := readKey_eq_some.mp hkey
          exact .inr (.inr (.inl ⟨q, body, rest, hq, hbody, rfl⟩))
        | none => exact .inr (.inr (.inr rfl))
    · refine .inr (.inr (.inr ?_))
      rw [readParts, if_neg hname, if_neg hopen]

theorem Steps.head (h : Steps cs parts) : ∀ c ∈ cs.head?, isAsciiContinue c = false := by
  cases h <;> rintro _ ⟨⟩ <;> decide

theorem indexPart_eq_ok {p : PathPart} : indexPart negative ds = .ok p ↔
    ds.length ≤ digitLimit ∧
      p = .index (if negative then -(numeralValue ds : Int) else numeralValue ds) := by
  unfold indexPart
  by_cases hlen : ds.length > digitLimit
  · rw [if_pos hlen]
    exact ⟨nofun, fun h => absurd h.1 (not_le.mpr hlen)⟩
  · rw [if_neg hlen]
    simp only [Except.ok.injEq, not_lt.mp hlen, true_and]
    exact eq_comm

/-- **The steps of a path are read exactly as they are written.** -/
theorem readParts_eq_ok (h : cs.length < fuel) :
    readParts expr fuel cs = .ok parts ↔ Steps cs parts := by
  induction fuel generalizing cs parts with
  | zero => exact absurd h (Nat.not_lt_zero _)
  | succ fuel ih =>
    constructor
    · intro hread
      obtain _ | ⟨c, cs⟩ := cs
      · cases hread
        exact .done
      · obtain ⟨n, rest, hn, hstop, hcs⟩ | ⟨negative, ds, rest, hds, hcs⟩ | ⟨q, body, rest, hq, hbody, hcs⟩ |
          hfail := readParts_cases expr fuel c cs
        · rw [hcs] at h hread ⊢
          rw [readParts_name hn hstop, map_eq_ok] at hread
          obtain ⟨parts, hrest, rfl⟩ := hread
          exact .name hn ((ih (by simp at h; omega)).mp hrest)
        · rw [hcs] at h hread ⊢
          rw [readParts_index hds] at hread
          obtain ⟨p, hp, hread⟩ := bind_eq_ok.mp hread
          obtain ⟨parts, hrest, rfl⟩ := map_eq_ok.mp hread
          obtain ⟨hlen, rfl⟩ := indexPart_eq_ok.mp hp
          exact .index negative hds.1 hds.2 hlen ((ih (by simp at h; omega)).mp hrest)
        · rw [hcs] at h hread ⊢
          rw [readParts_key hq hbody] at hread
          obtain ⟨p, hp, hread⟩ := bind_eq_ok.mp hread
          obtain ⟨parts, hrest, rfl⟩ := map_eq_ok.mp hread
          obtain ⟨ps, hps, rfl⟩ := (keyPart_eq_ok hq hbody).mp hp
          exact .key hq hbody hps ((ih (by simp at h; omega)).mp hrest)
        · rw [hfail] at hread
          cases hread
    · intro hsteps
      cases hsteps with
      | done => rfl
      | name hn hrest =>
        rw [readParts_name hn hrest.head, (ih (by simp at h; omega)).mpr hrest]
        rfl
      | index negative hne hds hlen hrest =>
        rw [readParts_index ⟨hne, hds⟩, indexPart_eq_ok.mpr ⟨hlen, rfl⟩, Except.bind,
          (ih (by simp at h; omega)).mpr hrest]
        rfl
      | key hq hbody hps hrest =>
        rw [readParts_key hq hbody, (keyPart_eq_ok hq hbody).mpr ⟨_, hps, rfl⟩, Except.bind,
          (ih (by simp at h; omega)).mpr hrest]
        rfl

/-- The text is a path with these parts: a name, and the steps after it. -/
def Grammar (cs : List Char) (parts : List PathPart) : Prop :=
  ∃ n rest steps, cs = n ++ rest ∧ AsciiName n ∧ Steps rest steps ∧
    parts = .name (String.ofList n) :: steps

/-- **A path is read exactly from the texts of its grammar.** -/
theorem parse_eq_ok {s : String} {path : FieldPath} :
    parse s = .ok path ↔ path.expr = strip s ∧ Grammar (trim s.toList) path.parts := by
  unfold parse strip
  dsimp only
  generalize trim s.toList = cs
  obtain ⟨expr, parts⟩ := path
  constructor
  · intro h
    split at h
    · rename_i c cs
      split_ifs at h with hstart
      obtain ⟨steps, hsteps, hpath⟩ := bind_eq_ok.mp h
      cases hpath
      refine ⟨rfl, _, _, steps, List.takeWhile_append_dropWhile.symm, ?_, (readParts_eq_ok ?_).mp hsteps, rfl⟩
      · rw [List.takeWhile_cons_of_pos (isAsciiContinue_of_start hstart)]
        exact ⟨hstart, List.all_eq_true.mp List.all_takeWhile⟩
      · exact Nat.lt_succ_of_le (List.dropWhile_sublist _).length_le
    · cases h
  · rintro ⟨rfl, n, rest, steps, rfl, hn, hsteps, rfl⟩
    obtain ⟨htake, hdrop⟩ := hn.span hsteps.head
    obtain ⟨c, ds, rfl, hc⟩ := hn.exists_cons
    have hlen : rest.length < (c :: ds ++ rest).length + 1 := by
      rw [List.length_append]
      omega
    have hread (expr : String) := (@readParts_eq_ok rest steps expr _ hlen).mpr hsteps
    rw [List.cons_append] at htake hdrop hread ⊢
    dsimp only
    rw [if_pos hc, htake, hdrop, hread]
    rfl

/-! ## Written paths -/

/-- A part as it is written after the first name: a name after a dot, or its text in brackets. A key that
holds both quotes has no such text. -/
inductive Written : PathPart → List Char → Prop
  | name {n : List Char} : AsciiName n → Written (.name (String.ofList n)) ('.' :: n)
  | index {n : Int} {t : String} : (Value.int n).written = .ok t → Written (.index n) ('[' :: (t.toList ++ [']']))
  | key {ps : List Point} {t : String} : ¬(.char '\'' ∈ ps ∧ .char '"' ∈ ps) →
    (Value.ofPoints ps).written = .ok t → Written (.ofPoints ps) ('[' :: (t.toList ++ [']']))

theorem isDigit_of_digits (h : Digits ds) : ∀ d ∈ ds, isDigit d = true := by
  intro d hd
  rw [isDigit, digitValue?_of_isDigit (h d hd), Option.isSome_some]

/-- **What is written for a part stands for the part.** -/
theorem Written.steps {part : PathPart} {written : List Char} (h : Written part written)
    (hrest : Steps rest parts) : Steps (written ++ rest) (part :: parts) := by
  cases h with
  | name hn => exact .name hn hrest
  | @index n t hn =>
    rw [Value.written] at hn
    obtain ⟨hlen, rfl⟩ := Value.intText_eq_ok.mp hn
    have hindex := Steps.index (decide (n < 0)) (numeralChars_ne_nil n.natAbs)
      (isDigit_of_digits (digits_numeralChars n.natAbs)) hlen hrest
    rw [numeralValue_numeralChars, Artifact.signed_natAbs] at hindex
    rw [toList_intNumeral]
    simpa using hindex
  | @key ps t hboth ht =>
    rw [Value.written_ofPoints] at ht
    cases ht
    obtain ⟨q, hq, hquoted, hmem⟩ := exists_quotedPoints ps
    have hbody := quote_not_mem_escaped hq (hmem hboth)
    have hread : Expression.readQuoted {} q (escaped q ps ++ [q]) = some (.text ps, []) :=
      Expression.readQuoted_escaped hq ps nofun
    rw [← unifyLines_eq_self (not_mem_escaped (by decide) hq)] at hread
    have hnul : '\x00' ∉ q :: (escaped q ps ++ [q]) := by
      have hescaped : '\x00' ∉ escaped q ps := not_mem_escaped (by decide) hq
      have hne : '\x00' ≠ q := by obtain rfl | rfl := hq <;> decide
      simp [hescaped, hne]
    have hkey := Steps.key hq hbody ⟨hnul, _, parse_quoted hq hbody hread, rfl⟩ hrest
    rw [String.toList_ofList, hquoted]
    simpa using hkey

theorem steps_written {pieces : List (List Char)} (h : List.Forall₂ Written parts pieces) :
    Steps pieces.flatten parts := by
  induction h with
  | nil => exact .done
  | cons hpiece _ ih => exact hpiece.steps ih

theorem last_append {p : Char → Bool} {as bs : List Char} (ha : ∀ c ∈ as.getLast?, p c = false)
    (hb : ∀ c ∈ bs.getLast?, p c = false) : ∀ c ∈ (as ++ bs).getLast?, p c = false := by
  intro c hc
  rw [List.getLast?_append, Option.mem_def, Option.or_eq_some_iff] at hc
  obtain hc | ⟨-, hc⟩ := hc
  · exact hb c hc
  · exact ha c hc

theorem Steps.last (h : Steps cs parts) : ∀ c ∈ cs.getLast?, isBlank c = false := by
  induction h with
  | done => nofun
  | @name n rest parts hn hrest ih =>
    rw [← List.cons_append]
    refine last_append (fun c hc => ?_) ih
    obtain rfl | hc := List.mem_cons.mp (List.mem_of_mem_getLast? hc)
    · decide
    · exact isBlank_of_isAsciiContinue (hn.isAsciiContinue c hc)
  | @index ds rest parts negative hne hds hlen hrest ih =>
    have hsplit : '[' :: (signChars negative ++ (ds ++ ']' :: rest)) =
        ('[' :: (signChars negative ++ ds)) ++ [']'] ++ rest := by
      simp
    rw [hsplit]
    refine last_append (fun c hc => ?_) ih
    rw [List.getLast?_concat] at hc
    cases hc
    decide
  | @key q body rest ps parts hq hbody hps hrest ih =>
    have hsplit : '[' :: q :: (body ++ q :: ']' :: rest) = ('[' :: q :: (body ++ [q])) ++ [']'] ++ rest := by
      simp
    rw [hsplit]
    refine last_append (fun c hc => ?_) ih
    rw [List.getLast?_concat] at hc
    cases hc
    decide

theorem Grammar.bounded (h : Grammar cs parts) : Bounded cs := by
  obtain ⟨n, rest, steps, rfl, hn, hsteps, -⟩ := h
  have hblank : ∀ c ∈ n, isBlank c = false := fun c hc => isBlank_of_isAsciiContinue (hn.isAsciiContinue c hc)
  refine ⟨?_, last_append (fun c hc => hblank c (List.mem_of_mem_getLast? hc)) hsteps.last⟩
  obtain ⟨c, ds, rfl, -⟩ := hn.exists_cons
  rintro _ ⟨⟩
  exact hblank _ List.mem_cons_self

/-- **A path is read exactly from the texts of its grammar, and what is written for its parts is read as
the parts.** -/
theorem parse_grammar :
    (∀ (s : String) (path : FieldPath),
      parse s = .ok path ↔ path.expr = strip s ∧ Grammar (trim s.toList) path.parts) ∧
    ∀ (head : List Char) (parts : List PathPart) (pieces : List (List Char)),
      AsciiName head → List.Forall₂ Written parts pieces →
      parse (String.ofList (head ++ pieces.flatten)) =
        .ok ⟨String.ofList (head ++ pieces.flatten), .name (String.ofList head) :: parts⟩ := by
  refine ⟨fun s path => parse_eq_ok, fun head parts pieces hhead hpieces => ?_⟩
  have hgrammar : Grammar (head ++ pieces.flatten) (.name (String.ofList head) :: parts) :=
    ⟨head, _, _, rfl, hhead, steps_written hpieces, rfl⟩
  rw [parse_eq_ok, strip, String.toList_ofList, trim_eq_self hgrammar.bounded]
  exact ⟨rfl, hgrammar⟩

/-- A path with a key that holds a bar and a bracket, a negative index and an attribute. -/
theorem parse_grammar_row :
    parse "row['a|b]'][-3].x" =
      .ok ⟨"row['a|b]'][-3].x", [.name "row", .name "a|b]", .index (-3), .name "x"]⟩ := by
  have hkey : Written (.name "a|b]") "['a|b]']".toList :=
    @Written.key ("a|b]".toList.map .char) "'a|b]'" (by decide) (by decide +kernel)
  have hindex : Written (.index (-3)) "[-3]".toList := by
    refine .index (t := "-3") ?_
    rw [Value.written]
    exact Value.intText_eq_ok.mpr ⟨by decide, by decide⟩
  have hname : Written (.name "x") ".x".toList := .name (n := ['x']) (by decide)
  have htext : "row".toList ++ ["['a|b]']".toList, "[-3]".toList, ".x".toList].flatten =
      "row['a|b]'][-3].x".toList := by decide
  have hpath := parse_grammar.2 "row".toList _ _ (by decide) (.cons hkey (.cons hindex (.cons hname .nil)))
  rwa [htext, String.ofList_toList, String.ofList_toList] at hpath

end FieldPath

end Gabarit
