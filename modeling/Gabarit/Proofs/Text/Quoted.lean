import Gabarit.Text.Escape
import Gabarit.Text.Quoted
import Mathlib.Data.Nat.Digits.Lemmas
import Mathlib.Tactic.Common
import Mathlib.Tactic.IntervalCases

/-!
# Reading quoted texts

What escaping writes is read as what it was written for, whatever the text holds.

* `chars?_eq_some`, `ofPoints_points`: texts with and without surrogates, by their code points;
* `ofCode?_code`: code points by their numbers;
* `readHex_hexPadded`: a number in hexadecimal digits;
* `unescapeFrom_escapePoint`: one code point and what is written for it;
* **`unescape_escaped`**: a text between quotes;
* `not_mem_escaped`, `quote_not_mem_escaped`: what does not stand between the quotes.
-/

namespace Gabarit.Text

/-! ## Code points -/

theorem chars?_map_char (cs : List Char) : chars? (cs.map .char) = some cs := by
  induction cs with
  | nil => rfl
  | cons c cs ih =>
    rw [chars?] at ih
    simp [chars?, Point.char?, ih]

theorem chars?_eq_some {ps : List Point} {cs : List Char} : chars? ps = some cs ↔ ps = cs.map .char := by
  refine ⟨fun h => ?_, fun h => h ▸ chars?_map_char cs⟩
  induction ps generalizing cs with
  | nil =>
    cases h
    rfl
  | cons p ps ih =>
    rw [chars?, List.mapM_cons] at h
    obtain ⟨c, hc, h⟩ := Option.bind_eq_some_iff.mp h
    obtain ⟨ds, hds, h⟩ := Option.bind_eq_some_iff.mp h
    cases h
    cases p with
    | char c' =>
      cases hc
      rw [ih hds, List.map_cons]
    | surrogate n => cases hc

@[simp]
theorem ofPoints_map_char (cs : List Char) : ofPoints (cs.map .char) = .inl (String.ofList cs) := by
  unfold ofPoints
  split
  next ds h =>
    rw [chars?_map_char] at h
    cases h
    rfl
  next h =>
    rw [chars?_map_char] at h
    cases h

@[simp]
theorem ofPoints_broken (t : Broken) : ofPoints t.1 = .inr t := by
  unfold ofPoints
  split
  next cs h =>
    rw [t.2] at h
    cases h
  next h => rfl

/-- Texts are what their code points make. -/
@[simp]
theorem ofPoints_points (t : String ⊕ Broken) : ofPoints (points t) = t := by
  cases t with
  | inl s => rw [points, ofPoints_map_char, String.ofList_toList]
  | inr t => rw [points, ofPoints_broken]

@[simp]
theorem points_ofPoints (ps : List Point) : points (ofPoints ps) = ps := by
  unfold ofPoints
  split
  next cs h => rw [points, String.toList_ofList, chars?_eq_some.mp h]
  next h => rfl

theorem ofCode?_code (p : Point) : Point.ofCode? p.code = some p := by
  cases p with
  | char c =>
    have hvalid : c.toNat.isValidChar := c.valid
    rw [Point.code, Point.ofCode?, if_pos hvalid, Char.ofNat_toNat]
  | surrogate n =>
    have hn := n.isLt
    have hvalid : ¬(0xD800 + n.val).isValidChar := by
      unfold Nat.isValidChar
      omega
    rw [Point.code, Point.ofCode?, if_neg hvalid, dif_pos (by omega)]
    simp

/-- The two quotes. -/
def IsQuote (q : Char) : Prop := q = '\'' ∨ q = '"'

/-- What is written for a text between quotes `q`. -/
def escaped (q : Char) (ps : List Point) : List Char := ps.flatMap (escapePoint q)

/-! ## Hexadecimal numbers -/

theorem readHex_append {ds : List Char} (h : ∀ d ∈ ds, (hexDigit? d).isSome) (v : ℕ) (rest : List Char) :
    readHex ds.length v (ds ++ rest) =
      some (ds.foldl (fun v c => 16 * v + (hexDigit? c).getD 0) v, rest) := by
  induction ds generalizing v with
  | nil => cases rest <;> rfl
  | cons d ds ih =>
    obtain ⟨hd, hds⟩ := List.forall_mem_cons.mp h
    obtain ⟨n, hn⟩ := Option.isSome_iff_exists.mp hd
    rw [List.length_cons, List.cons_append, readHex, hn]
    dsimp only
    rw [ih hds, List.foldl_cons, hn, Option.getD_some]

theorem hexDigit?_digitChar {n : ℕ} (h : n < 16) : hexDigit? n.digitChar = some n := by
  interval_cases n <;> decide

theorem hexValue_toDigits (n : ℕ) :
    (∀ d ∈ Nat.toDigits 16 n, (hexDigit? d).isSome) ∧ hexValue (Nat.toDigits 16 n) = n := by
  induction n using Nat.strong_induction_on with
  | _ n ih =>
    rw [Nat.toDigits_eq_if (by decide)]
    split_ifs with hn
    · simp [hexValue, hexDigit?_digitChar hn]
    · obtain ⟨hdigits, hvalue⟩ := ih (n / 16) (by omega)
      have hlast := hexDigit?_digitChar (Nat.mod_lt n (show 0 < 16 by decide))
      refine ⟨?_, ?_⟩
      · rw [List.forall_mem_append, List.forall_mem_singleton, hlast]
        exact ⟨hdigits, rfl⟩
      · rw [hexValue, List.foldl_append, ← hexValue, hvalue, List.foldl_cons, List.foldl_nil, hlast,
          Option.getD_some]
        omega

theorem hexValue_zeros_append (k : ℕ) (cs : List Char) :
    hexValue (List.replicate k '0' ++ cs) = hexValue cs := by
  induction k with
  | zero => rfl
  | succ k ih => exact ih

theorem length_hexPadded {width n : ℕ} (hw : 0 < width) (h : n < 16 ^ width) :
    (hexPadded width n).length = width := by
  have hle := (Nat.length_toDigits_le_iff (b := 16) (by decide) hw).mpr h
  rw [hexPadded, List.length_append, List.length_replicate]
  omega

theorem hexDigit?_of_mem_hexPadded {width n : ℕ} {d : Char} (h : d ∈ hexPadded width n) :
    (hexDigit? d).isSome := by
  obtain h | h := List.mem_append.mp h
  · rw [List.eq_of_mem_replicate h]
    rfl
  · exact (hexValue_toDigits n).1 d h

theorem readHex_hexPadded {width n : ℕ} (hw : 0 < width) (h : n < 16 ^ width) (rest : List Char) :
    readHex width 0 (hexPadded width n ++ rest) = some (n, rest) := by
  have hdigits : ∀ d ∈ hexPadded width n, (hexDigit? d).isSome := fun d => hexDigit?_of_mem_hexPadded
  have hread := readHex_append hdigits 0 rest
  rw [length_hexPadded hw h] at hread
  rw [hread, ← hexValue, hexPadded, hexValue_zeros_append, (hexValue_toDigits n).2]

/-! ## Escapes -/

variable {q : Char} {p : Point} {ps : List Point} {rest : List Char}

theorem code_lt (p : Point) : p.code < 0x110000 := by
  cases p with
  | char c =>
    have hvalid : c.toNat.isValidChar := c.valid
    unfold Nat.isValidChar at hvalid
    rw [Point.code]
    omega
  | surrogate n =>
    rw [Point.code]
    omega

/-- An escape by the code point, after its letter. -/
theorem unescapeFrom_coded {letter : Char} {width : ℕ}
    (hletter : letter = 'x' ∧ width = 2 ∨ letter = 'u' ∧ width = 4 ∨ letter = 'U' ∧ width = 8)
    (h : p.code < 16 ^ width) (fuel : ℕ) (rest : List Char) :
    unescapeFrom (fuel + 1) ('\\' :: letter :: (hexPadded width p.code ++ rest)) =
      (unescapeFrom fuel rest).map (p :: ·) := by
  obtain ⟨rfl, rfl⟩ | ⟨rfl, rfl⟩ | ⟨rfl, rfl⟩ := hletter <;>
  · have hread := readHex_hexPadded (by decide) h rest
    simp [unescapeFrom, readEscape, shortEscape?, octalDigit?, hread, ofCode?_code]

/-- **A code point is read from what is written for it.** -/
theorem unescapeFrom_escapePoint (hq : IsQuote q) (p : Point) (fuel : ℕ) (rest : List Char) :
    unescapeFrom (fuel + 1) (escapePoint q p ++ rest) = (unescapeFrom fuel rest).map (p :: ·) := by
  have hlt := code_lt p
  cases p with
  | surrogate n =>
    have hcode : (Point.surrogate n).code < 16 ^ 4 := by
      rw [Point.code]
      omega
    exact unescapeFrom_coded (.inr (.inl ⟨rfl, rfl⟩)) hcode fuel rest
  | char c =>
    simp only [escapePoint]
    unfold escapeChar
    split_ifs with h h h h h h h
    · have hc : shortEscape? c = some c ∧ c ≠ '\n' := by
        obtain rfl | rfl := h
        · obtain rfl | rfl := hq <;> decide
        · decide
      simp [unescapeFrom, readEscape, hc]
    · subst h
      simp [unescapeFrom, readEscape, shortEscape?]
    · subst h
      simp [unescapeFrom, readEscape, shortEscape?]
    · subst h
      simp [unescapeFrom, readEscape, shortEscape?]
    · rename_i hplain _ _ _
      have hslash : c ≠ '\\' := fun hc => hplain (.inr hc)
      simp [unescapeFrom, hslash]
    · exact unescapeFrom_coded (p := .char c) (.inl ⟨rfl, rfl⟩) h fuel rest
    · exact unescapeFrom_coded (p := .char c) (.inr (.inl ⟨rfl, rfl⟩)) h fuel rest
    · exact unescapeFrom_coded (p := .char c) (.inr (.inr ⟨rfl, rfl⟩)) (by omega) fuel rest

theorem unescapeFrom_escaped (hq : IsQuote q) {fuel : ℕ} (h : ps.length < fuel) :
    unescapeFrom fuel (escaped q ps) = some ps := by
  induction ps generalizing fuel with
  | nil =>
    obtain _ | fuel := fuel
    · exact absurd h (Nat.not_lt_zero _)
    · rfl
  | cons p ps ih =>
    obtain _ | fuel := fuel
    · exact absurd h (Nat.not_lt_zero _)
    · rw [escaped, List.flatMap_cons, unescapeFrom_escapePoint hq, ← escaped,
        ih (Nat.lt_of_succ_lt_succ h)]
      rfl

/-! ## Code points between quotes -/

/-- What is written for a code point: the character alone, a backslash before it, or a backslash before a
letter and hexadecimal digits. -/
theorem escapePoint_cases (q : Char) (p : Point) :
    (∃ c, p = .char c ∧ (c ≠ q ∧ c ≠ '\\' ∧ isPrintable c) ∧ escapePoint q p = [c]) ∨
    (∃ c, p = .char c ∧ (c = q ∨ c = '\\') ∧ escapePoint q p = ['\\', c]) ∨
    ∃ letter ds, escapePoint q p = '\\' :: letter :: ds ∧ letter ∈ ['n', 'r', 't', 'x', 'u', 'U'] ∧
      ∀ d ∈ ds, (hexDigit? d).isSome := by
  cases p with
  | surrogate n => exact .inr (.inr ⟨'u', _, rfl, by decide, fun d => hexDigit?_of_mem_hexPadded⟩)
  | char c =>
    simp only [escapePoint]
    unfold escapeChar
    split_ifs with h1 h2 h3 h4 h5 h6 h7
    · exact .inr (.inl ⟨c, rfl, h1, rfl⟩)
    · exact .inr (.inr ⟨'n', [], rfl, by decide, nofun⟩)
    · exact .inr (.inr ⟨'r', [], rfl, by decide, nofun⟩)
    · exact .inr (.inr ⟨'t', [], rfl, by decide, nofun⟩)
    · rw [not_or] at h1
      exact .inl ⟨c, rfl, ⟨h1.1, h1.2, h5⟩, rfl⟩
    · exact .inr (.inr ⟨'x', _, rfl, by decide, fun d => hexDigit?_of_mem_hexPadded⟩)
    · exact .inr (.inr ⟨'u', _, rfl, by decide, fun d => hexDigit?_of_mem_hexPadded⟩)
    · exact .inr (.inr ⟨'U', _, rfl, by decide, fun d => hexDigit?_of_mem_hexPadded⟩)

theorem escapePoint_ne_nil (q : Char) (p : Point) : escapePoint q p ≠ [] := by
  obtain ⟨c, -, -, hp⟩ | ⟨c, -, -, hp⟩ | ⟨letter, ds, hp, -, -⟩ := escapePoint_cases q p <;>
    simp [hp]

theorem length_le_escaped (q : Char) (ps : List Point) : ps.length ≤ (escaped q ps).length := by
  induction ps with
  | nil => exact le_rfl
  | cons p ps ih =>
    have hp := List.length_pos_of_ne_nil (escapePoint_ne_nil q p)
    rw [escaped, List.flatMap_cons, List.length_append, List.length_cons, ← escaped]
    omega

/-- **A text is read from what is written for it between quotes.** -/
theorem unescape_escaped (hq : IsQuote q) (ps : List Point) : unescape (escaped q ps) = some ps :=
  unescapeFrom_escaped hq (Nat.lt_succ_of_le (length_le_escaped q ps))

theorem eq_of_mem_escapePoint {d : Char} (h : d ∈ escapePoint q p)
    (hd : d ≠ '\\' ∧ d ∉ ['n', 'r', 't', 'x', 'u', 'U'] ∧ hexDigit? d = none) : p = .char d := by
  obtain ⟨c, rfl, -, hc⟩ | ⟨c, rfl, -, hc⟩ | ⟨letter, ds, hc, hletter, hds⟩ := escapePoint_cases q p
  · rw [hc, List.mem_singleton] at h
    rw [h]
  · rw [hc, List.mem_cons, List.mem_singleton] at h
    rw [h.resolve_left hd.1]
  · rw [hc, List.mem_cons, List.mem_cons] at h
    obtain h | rfl | h := h
    · exact absurd h hd.1
    · exact absurd hletter hd.2.1
    · have := hds d h
      rw [hd.2.2] at this
      cases this

theorem not_mem_escaped {d : Char} (hd : d ∈ ['\n', '\r', '\x00']) (hq : IsQuote q) : d ∉ escaped q ps := by
  have hcontrol : (d ≠ '\\' ∧ d ∉ ['n', 'r', 't', 'x', 'u', 'U'] ∧ hexDigit? d = none) ∧
      isPrintable d = false ∧ d ≠ '\'' ∧ d ≠ '"' := by
    simp only [List.mem_cons, List.not_mem_nil, or_false] at hd
    obtain rfl | rfl | rfl := hd <;> decide
  obtain ⟨hnone, hprint, hsingle, hdouble⟩ := hcontrol
  intro h
  obtain ⟨p, -, h⟩ := List.mem_flatMap.mp h
  obtain rfl := eq_of_mem_escapePoint h hnone
  obtain ⟨c, hc, ⟨-, -, hshown⟩, -⟩ | ⟨c, hc, hescaped, -⟩ | ⟨letter, ds, hc, hletter, hds⟩ :=
    escapePoint_cases q (.char d)
  · cases hc
    rw [hprint] at hshown
    cases hshown
  · cases hc
    obtain rfl | rfl := hescaped
    · exact hq.elim hsingle hdouble
    · exact hnone.1 rfl
  · rw [hc, List.mem_cons, List.mem_cons] at h
    obtain h | rfl | h := h
    · exact hnone.1 h
    · exact hnone.2.1 hletter
    · have := hds d h
      rw [hnone.2.2] at this
      cases this

theorem quote_not_mem_escaped (hq : IsQuote q) (h : .char q ∉ ps) : q ∉ escaped q ps := by
  intro hmem
  obtain ⟨p, hp, hmem⟩ := List.mem_flatMap.mp hmem
  obtain rfl := eq_of_mem_escapePoint hmem (by obtain rfl | rfl := hq <;> decide)
  exact h hp

/-- A text is written between quotes of one kind, which it does not hold unless it holds both. -/
theorem exists_quotedPoints (ps : List Point) :
    ∃ q, IsQuote q ∧ quotedPoints ps = q :: (escaped q ps ++ [q]) ∧
      (¬(.char '\'' ∈ ps ∧ .char '"' ∈ ps) → .char q ∉ ps) := by
  refine ⟨quoteFor (ps.contains (.char '\'')) (ps.contains (.char '"')), ?_, rfl, ?_⟩
  · unfold quoteFor
    split_ifs
    · exact .inr rfl
    · exact .inl rfl
  · unfold quoteFor
    split_ifs with h
    · exact fun _ => by simpa using (Bool.and_eq_true_iff.mp h).2
    · intro hboth hsingle
      simp only [List.contains_eq_mem, Bool.and_eq_true, decide_eq_true_eq, Bool.not_eq_true',
        decide_eq_false_iff_not, not_and, not_not] at h
      exact hboth ⟨hsingle, h hsingle⟩

end Gabarit.Text
