import Gabarit.Proofs.Text.Blank
import Gabarit.Proofs.Text.Identifier
import Gabarit.Proofs.Text.Quoted
import Gabarit.Template.FilterCall
import Gabarit.Template.Segment

/-!
# Dividing pipelines

* `quoteAfter`: the quote that is open after some characters, if no bar stands outside of quotes;
* `Undivided`: all quotes are closed, and no bar stands outside of them;
* **`pipeStages_intercalate`**: undivided pieces with bars between them are the stages;
* `undivided_of_trim`, `quoteAfter_unifyLines`, `quoteAfter_namePlaceholders`: what is done to a stage before it
  is read leaves its quotes alone.
-/

namespace Gabarit

open Text

/-- The quote that is open after some characters, unless a bar stands outside of quotes. -/
def quoteAfter : Option Char → List Char → Option (Option Char)
  | quote, [] => some quote
  | some q, c :: cs => quoteAfter (if c = q then none else some q) cs
  | none, c :: cs =>
    if c = '\'' ∨ c = '"' then quoteAfter (some c) cs
    else if c = '|' then none
    else quoteAfter none cs

/-- All quotes are closed, and no bar stands outside of them. -/
def Undivided (cs : List Char) : Prop := quoteAfter none cs = some none

/-- The character neither opens nor closes quotes, and divides no pipeline. -/
def Neutral (c : Char) : Prop := ¬IsQuote c ∧ c ≠ '|'

variable {quote : Option Char} {q c : Char} {cs as bs : List Char}

theorem isQuote_none : ∀ q ∈ (none : Option Char), IsQuote q := nofun

theorem quoteAfter_append (quote : Option Char) (as bs : List Char) :
    quoteAfter quote (as ++ bs) = (quoteAfter quote as).bind (quoteAfter · bs) := by
  induction as generalizing quote with
  | nil => cases quote <;> rfl
  | cons c as ih =>
    cases quote with
    | none =>
      rw [List.cons_append, quoteAfter, quoteAfter]
      split_ifs
      · exact ih _
      · rfl
      · exact ih _
    | some q => exact ih _

theorem quoteAfter_neutral (hc : Neutral c) (hquote : ∀ q ∈ quote, IsQuote q) (cs : List Char) :
    quoteAfter quote (c :: cs) = quoteAfter quote cs := by
  obtain ⟨hq, hbar⟩ := hc
  cases quote with
  | none =>
    have hq' : ¬(c = '\'' ∨ c = '"') := hq
    rw [quoteAfter, if_neg hq', if_neg hbar]
  | some q =>
    have hne : c ≠ q := fun h => hq (h ▸ hquote q rfl)
    rw [quoteAfter, if_neg hne]

theorem quoteAfter_neutrals (has : ∀ c ∈ as, Neutral c) (hquote : ∀ q ∈ quote, IsQuote q) (cs : List Char) :
    quoteAfter quote (as ++ cs) = quoteAfter quote cs := by
  induction as with
  | nil => rfl
  | cons c as ih =>
    rw [List.forall_mem_cons] at has
    rw [List.cons_append, quoteAfter_neutral has.1 hquote, ih has.2]

theorem undivided_of_neutral (h : ∀ c ∈ cs, Neutral c) : Undivided cs := by
  have hskip := quoteAfter_neutrals h isQuote_none []
  rw [List.append_nil] at hskip
  exact hskip

theorem quoteAfter_inside (h : q ∉ as) (cs : List Char) :
    quoteAfter (some q) (as ++ cs) = quoteAfter (some q) cs := by
  induction as with
  | nil => rfl
  | cons c as ih =>
    rw [List.mem_cons, not_or] at h
    rw [List.cons_append, quoteAfter, if_neg (Ne.symm h.1), ih h.2]

theorem quoteAfter_quoted (hq : IsQuote q) (h : q ∉ as) (cs : List Char) :
    quoteAfter none (q :: (as ++ q :: cs)) = quoteAfter none cs := by
  have hq' : q = '\'' ∨ q = '"' := hq
  rw [quoteAfter, if_pos hq', quoteAfter_inside h, quoteAfter, if_pos rfl]

/-! ## Stages -/

theorem pipeStagesFrom_bar (h : quoteAfter quote as = some none) (current bs : List Char) :
    pipeStagesFrom current quote (as ++ '|' :: bs) =
      trim (current.reverse ++ as) :: pipeStagesFrom [] none bs := by
  induction as generalizing quote current with
  | nil =>
    cases h
    rw [List.nil_append, pipeStagesFrom, if_neg (by decide), if_pos rfl, List.append_nil]
  | cons c as ih =>
    have hstep : current.reverse ++ c :: as = (c :: current).reverse ++ as := by simp
    cases quote with
    | some q =>
      rw [List.cons_append, pipeStagesFrom, hstep]
      exact ih h _
    | none =>
      rw [quoteAfter] at h
      rw [List.cons_append, pipeStagesFrom, hstep]
      split_ifs at h ⊢ with hquote hbar
      · exact ih h _
      · exact ih h _

theorem pipeStagesFrom_last (h : quoteAfter quote as = some none) (current : List Char) :
    pipeStagesFrom current quote as = [trim (current.reverse ++ as)] := by
  induction as generalizing quote current with
  | nil => rw [pipeStagesFrom, List.append_nil]
  | cons c as ih =>
    have hstep : current.reverse ++ c :: as = (c :: current).reverse ++ as := by simp
    cases quote with
    | some q =>
      rw [pipeStagesFrom, hstep]
      exact ih h _
    | none =>
      rw [quoteAfter] at h
      rw [pipeStagesFrom, hstep]
      split_ifs at h ⊢ with hquote hbar
      · exact ih h _
      · exact ih h _

/-- **Undivided pieces with bars between them are the stages, trimmed.** -/
theorem pipeStages_intercalate {piece : List Char} {pieces : List (List Char)}
    (h : ∀ p ∈ piece :: pieces, Undivided p) :
    pipeStages (['|'].intercalate (piece :: pieces)) = (piece :: pieces).map trim := by
  induction pieces generalizing piece with
  | nil =>
    rw [List.intercalate_singleton]
    exact pipeStagesFrom_last (h piece List.mem_cons_self) []
  | cons next pieces ih =>
    rw [List.forall_mem_cons] at h
    rw [List.intercalate_cons_cons, List.append_assoc, List.singleton_append, pipeStages,
      pipeStagesFrom_bar h.1, ← pipeStages, ih h.2]
    rfl

/-! ## Stages as they are read -/

theorem neutral_of_isBlank (h : isBlank c = true) : Neutral c := by
  refine ⟨?_, ?_⟩
  · rintro (rfl | rfl) <;> exact absurd h (by decide)
  · rintro rfl
    exact absurd h (by decide)

theorem undivided_of_trim (h : Undivided (trim cs)) : Undivided cs := by
  obtain ⟨left, right, hcs, hleft, hright⟩ := exists_trim cs
  rw [Undivided, hcs, quoteAfter_neutrals (fun c hc => neutral_of_isBlank (hleft c hc)) isQuote_none,
    quoteAfter_append, h, Option.bind_some]
  exact undivided_of_neutral fun c hc => neutral_of_isBlank (hright c hc)

theorem quoteAfter_cons_congr (h : ∀ quote : Option Char, (∀ q ∈ quote, IsQuote q) →
    quoteAfter quote as = quoteAfter quote bs) (hquote : ∀ q ∈ quote, IsQuote q) (c : Char) :
    quoteAfter quote (c :: as) = quoteAfter quote (c :: bs) := by
  cases quote with
  | none =>
    rw [quoteAfter, quoteAfter]
    split_ifs with hc
    · exact h _ fun q hq => Option.some.inj hq ▸ hc
    · rfl
    · exact h _ isQuote_none
  | some q =>
    rw [quoteAfter, quoteAfter]
    split_ifs
    · exact h _ isQuote_none
    · exact h _ hquote

/-- Line ends are neutral. -/
theorem quoteAfter_unifyLines (hquote : ∀ q ∈ quote, IsQuote q) (cs : List Char) :
    quoteAfter quote (unifyLines cs) = quoteAfter quote cs := by
  have hreturn : Neutral '\r' := neutral_of_isBlank (by decide)
  have hline : Neutral '\n' := neutral_of_isBlank (by decide)
  induction cs using unifyLines.induct generalizing quote with
  | case1 rest ih =>
    rw [unifyLines, quoteAfter_neutral hline hquote, quoteAfter_neutral hreturn hquote,
      quoteAfter_neutral hline hquote, ih hquote]
  | case2 rest h ih =>
    rw [unifyLines.eq_2 _ h, quoteAfter_neutral hline hquote, quoteAfter_neutral hreturn hquote, ih hquote]
  | case3 c rest h h' ih =>
    rw [unifyLines.eq_3 _ _ h h', quoteAfter_cons_congr (fun _ h => ih h) hquote]
  | case4 => rfl

/-- Placeholders and their name are neutral. -/
theorem quoteAfter_namePlaceholders (hquote : ∀ q ∈ quote, IsQuote q) (cs : List Char) :
    quoteAfter quote (FilterCall.namePlaceholders cs) = quoteAfter quote cs := by
  have hname : ∀ c ∈ FilterCall.placeholderName.toList, Neutral c := by
    unfold Neutral IsQuote
    decide
  have hmark : ∀ c ∈ ['%', 's'], Neutral c := by
    unfold Neutral IsQuote
    decide
  induction cs using FilterCall.namePlaceholders.induct generalizing quote with
  | case1 rest ih =>
    have hplaceholder := quoteAfter_neutrals hmark hquote rest
    rw [FilterCall.namePlaceholders, quoteAfter_neutrals hname hquote, ih hquote]
    exact hplaceholder.symm
  | case2 c rest h ih =>
    rw [FilterCall.namePlaceholders.eq_2 _ _ h, quoteAfter_cons_congr (fun _ h => ih h) hquote]
  | case3 => rfl

end Gabarit
