import Gabarit.Render.Renderer
import Mathlib.Data.List.Infix
import Mathlib.Tactic.Common

/-!
# Escaped texts

A renderer escapes all quotes first, and then replaces the entities of those that may stand. This never hits
what the text itself says.

* `encodeMarkupChar`: a character as a policy asks for it;
* `restoreQuotes_escapeMarkup`: an escaped text is encoded character by character;
* `entities`: the entities that a policy asks for; `exists_entity`: each ampersand starts one;
* `unescapeMarkup`: the text that an escaped one stands for;
* **`escape_faithful`**: escaped texts are safe and faithful under each policy.
-/

namespace Gabarit.Text

/-- A character as it is written under a policy. -/
def encodeMarkupChar (quotes : QuotePolicy) (c : Char) : List Char :=
  if c = '&' then "&amp;".toList
  else if c = '<' then "&lt;".toList
  else if c = '>' then "&gt;".toList
  else if c = '"' ∧ quotes ≠ .none then "&#34;".toList
  else if c = '\'' ∧ quotes = .all then "&#39;".toList
  else [c]

theorem markup_or_plain (c : Char) : (c = '&' ∨ c = '<' ∨ c = '>' ∨ c = '"' ∨ c = '\'') ∨
    c ≠ '&' ∧ escapeMarkupChar c = [c] ∧ ∀ quotes, encodeMarkupChar quotes c = [c] := by
  rw [or_iff_not_imp_left]
  intro h
  simp only [not_or] at h
  obtain ⟨hamp, hlt, hgt, hdouble, hsingle⟩ := h
  exact ⟨hamp, by simp [escapeMarkupChar, hamp, hlt, hgt, hdouble, hsingle],
    fun quotes => by simp [encodeMarkupChar, hamp, hlt, hgt, hdouble, hsingle]⟩

/-! ## Restoring quotes -/

theorem replace_flatMap {α : Type} {old new : List Char} {f g : α → List Char}
    (h : ∀ a rest, replaceFrom old new 0 (f a ++ rest) = g a ++ replaceFrom old new 0 rest) (as : List α) :
    replace old new (as.flatMap f) = as.flatMap g := by
  induction as with
  | nil => rfl
  | cons a as ih =>
    rw [replace] at ih ⊢
    rw [List.flatMap_cons, h, ih, List.flatMap_cons]

theorem replaceFrom_plain {old new rest : List Char} {c : Char} (hc : c ≠ '&') :
    replaceFrom ('&' :: old) new 0 (c :: rest) = c :: replaceFrom ('&' :: old) new 0 rest := by
  rw [replaceFrom, if_neg]
  simp [hc.symm]

theorem replace_single (cs : List Char) :
    replace "&#39;".toList ['\''] (escapeMarkup cs) = cs.flatMap (encodeMarkupChar .double) := by
  refine replace_flatMap (fun c rest => ?_) cs
  obtain (rfl | rfl | rfl | rfl | rfl) | ⟨hc, hescape, hencode⟩ := markup_or_plain c
  · rfl
  · rfl
  · rfl
  · rfl
  · rfl
  · rw [hescape, hencode]
    exact replaceFrom_plain hc

theorem replace_double (cs : List Char) :
    replace "&#34;".toList ['"'] (cs.flatMap (encodeMarkupChar .double)) =
      cs.flatMap (encodeMarkupChar .none) := by
  refine replace_flatMap (fun c rest => ?_) cs
  obtain (rfl | rfl | rfl | rfl | rfl) | ⟨hc, -, hencode⟩ := markup_or_plain c
  · rfl
  · rfl
  · rfl
  · rfl
  · rfl
  · rw [hencode, hencode]
    exact replaceFrom_plain hc

/-- **An escaped text is encoded character by character as the policy asks for.** -/
theorem restoreQuotes_escapeMarkup (quotes : QuotePolicy) (cs : List Char) :
    restoreQuotes quotes (escapeMarkup cs) = cs.flatMap (encodeMarkupChar quotes) := by
  cases quotes with
  | all =>
    have hchar : escapeMarkupChar = encodeMarkupChar .all := by
      funext c
      simp [escapeMarkupChar, encodeMarkupChar]
    rw [escapeMarkup, hchar]
    rfl
  | double => exact replace_single cs
  | none =>
    rw [restoreQuotes, if_pos rfl, if_pos nofun, replace_single, replace_double]

/-! ## Encoded texts -/

/-- The entities that are written under a policy. -/
def entities : QuotePolicy → List (List Char)
  | .all => ["&amp;".toList, "&lt;".toList, "&gt;".toList, "&#34;".toList, "&#39;".toList]
  | .double => ["&amp;".toList, "&lt;".toList, "&gt;".toList, "&#34;".toList]
  | .none => ["&amp;".toList, "&lt;".toList, "&gt;".toList]

/-- The text that an escaped one stands for: its entities are read from left to right. -/
def unescapeMarkup : List Char → List Char
  | '&' :: 'a' :: 'm' :: 'p' :: ';' :: rest => '&' :: unescapeMarkup rest
  | '&' :: 'l' :: 't' :: ';' :: rest => '<' :: unescapeMarkup rest
  | '&' :: 'g' :: 't' :: ';' :: rest => '>' :: unescapeMarkup rest
  | '&' :: '#' :: '3' :: '4' :: ';' :: rest => '"' :: unescapeMarkup rest
  | '&' :: '#' :: '3' :: '9' :: ';' :: rest => '\'' :: unescapeMarkup rest
  | c :: rest => c :: unescapeMarkup rest
  | [] => []

theorem encodeMarkupChar_cases (quotes : QuotePolicy) (c : Char) :
    encodeMarkupChar quotes c ∈ entities quotes ∨ encodeMarkupChar quotes c = [c] ∧ c ≠ '&' := by
  obtain (rfl | rfl | rfl | rfl | rfl) | ⟨hc, -, hencode⟩ := markup_or_plain c
  · cases quotes <;> decide
  · cases quotes <;> decide
  · cases quotes <;> decide
  · cases quotes <;> decide
  · cases quotes <;> decide
  · exact .inr ⟨hencode quotes, hc⟩

theorem unescapeMarkup_encode (quotes : QuotePolicy) (c : Char) (rest : List Char) :
    unescapeMarkup (encodeMarkupChar quotes c ++ rest) = c :: unescapeMarkup rest := by
  obtain (rfl | rfl | rfl | rfl | rfl) | ⟨hc, -, hencode⟩ := markup_or_plain c
  · rfl
  · rfl
  · rfl
  · cases quotes <;> rfl
  · cases quotes <;> rfl
  · rw [hencode, List.singleton_append, unescapeMarkup]
    all_goals exact fun _ h _ => absurd h hc

theorem suffix_of_suffix_append {c : Char} {w rest after : List Char} (hw : c ∉ w)
    (h : c :: after <:+ w ++ rest) : c :: after <:+ rest := by
  induction w with
  | nil => exact h
  | cons d w ih =>
    rw [List.mem_cons, not_or] at hw
    rw [List.cons_append, List.suffix_cons_iff] at h
    exact ih hw.2 (h.resolve_left fun heq => hw.1 (List.cons.inj heq).1)

/-- **Each ampersand of an encoded text starts an entity.** -/
theorem exists_entity {quotes : QuotePolicy} {cs after : List Char}
    (h : '&' :: after <:+ cs.flatMap (encodeMarkupChar quotes)) :
    ∃ e ∈ entities quotes, e <+: '&' :: after := by
  have hshape : ∀ e ∈ entities quotes, e.head? = some '&' ∧ '&' ∉ e.tail := by
    cases quotes <;> decide
  induction cs with
  | nil => cases List.suffix_nil.mp h
  | cons c cs ih =>
    rw [List.flatMap_cons] at h
    obtain hentity | ⟨hchar, hc⟩ := encodeMarkupChar_cases quotes c
    · obtain ⟨hhead, htail⟩ := hshape _ hentity
      obtain ⟨tail, hwritten⟩ := List.head?_eq_some_iff.mp hhead
      rw [hwritten] at htail
      rw [hwritten, List.cons_append, List.suffix_cons_iff] at h
      obtain heq | h := h
      · refine ⟨_, hentity, ?_⟩
        rw [hwritten, heq]
        exact List.prefix_append ('&' :: tail) _
      · exact ih (suffix_of_suffix_append htail h)
    · rw [hchar] at h
      refine ih (suffix_of_suffix_append ?_ h)
      rw [List.mem_singleton]
      exact hc.symm

theorem not_mem_encoded {quotes : QuotePolicy} {d : Char} (hd : d ∈ ['<', '>', '"', '\''])
    (hencode : encodeMarkupChar quotes d ≠ [d]) (cs : List Char) :
    d ∉ cs.flatMap (encodeMarkupChar quotes) := by
  have hentities : ∀ e ∈ entities quotes, e.all (· ∉ ['<', '>', '"', '\'']) := by
    cases quotes <;> decide
  intro h
  obtain ⟨c, -, h⟩ := List.mem_flatMap.mp h
  obtain hentity | ⟨hchar, -⟩ := encodeMarkupChar_cases quotes c
  · have hplain := List.all_eq_true.mp (hentities _ hentity) d h
    exact of_decide_eq_true hplain hd
  · rw [hchar, List.mem_singleton] at h
    exact hencode (h ▸ hchar)

theorem unescapeMarkup_flatMap (quotes : QuotePolicy) (cs : List Char) :
    unescapeMarkup (cs.flatMap (encodeMarkupChar quotes)) = cs := by
  induction cs with
  | nil => rfl
  | cons c cs ih => rw [List.flatMap_cons, unescapeMarkup_encode, ih]

end Gabarit.Text

namespace Gabarit

open Text

/-- **Escaped texts are safe and faithful under each policy.** Escaping goes character by character, also
where the text holds entities itself. So no angle bracket is left, and no quote that the policy encodes;
each ampersand starts an entity, and reading the entities gives the text back. -/
theorem escape_faithful (r : Renderer) (s : String) :
    let escaped := (r.escape s).toList
    escaped = s.toList.flatMap (encodeMarkupChar r.quotes) ∧
      '<' ∉ escaped ∧ '>' ∉ escaped ∧
      (r.quotes ≠ .none → '"' ∉ escaped) ∧ (r.quotes = .all → '\'' ∉ escaped) ∧
      (∀ after, '&' :: after <:+ escaped → ∃ e ∈ entities r.quotes, e <+: '&' :: after) ∧
      unescapeMarkup escaped = s.toList := by
  have hescaped : (r.escape s).toList = s.toList.flatMap (encodeMarkupChar r.quotes) := by
    rw [Renderer.escape, String.toList_ofList, restoreQuotes_escapeMarkup]
  dsimp only
  rw [hescaped]
  generalize r.quotes = quotes
  refine ⟨rfl, not_mem_encoded (by decide) ?_ _, not_mem_encoded (by decide) ?_ _, fun h => ?_, fun h => ?_,
    fun after h => exists_entity h, unescapeMarkup_flatMap quotes s.toList⟩
  · cases quotes <;> decide
  · cases quotes <;> decide
  · refine not_mem_encoded (by decide) ?_ _
    cases quotes
    · decide
    · decide
    · exact absurd rfl h
  · subst h
    exact not_mem_encoded (by decide) (by decide) _

/-- Entities that a text holds are not taken for quotes, and neither is what restoring a quote leaves. -/
example : (Renderer.escape ⟨.empty, "UTF-8", .none⟩ "'&#39;&amp;#34;\"").toList =
    "'&amp;#39;&amp;amp;#34;\"".toList := by
  decide +kernel

end Gabarit
