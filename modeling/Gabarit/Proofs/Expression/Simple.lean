import Gabarit.Proofs.Expression.Operand
import Gabarit.Proofs.Outcome

/-!
# Simple expressions

Names, literals and calls of them are written without the operators `|` and `|=`.

* `Expr.isSimple`: names and literals, with signs, and calls of such expressions;
* `bars`: the number of operators with a bar among tokens;
* `Kept`, `kept`: what is read as a simple expression holds no such operator;
* **`exists_lex_of_parse`**: neither does a text that is read as one;
* `isSimple_of_evaluate`: scalars are written as simple expressions.
-/

namespace Gabarit.Expression

mutual

/-- The expression is a name, a literal, one of them after signs, or a call of such expressions. -/
def Expr.isSimple : Expr → Bool
  | .name _ | .scalar _ => true
  | .signed _ e => e.isSimple
  | .call f es false => f.isSimple && areSimple es
  | _ => false
termination_by structural e => e

/-- All of the expressions are simple. -/
def areSimple : List Expr → Bool
  | [] => true
  | e :: es => e.isSimple && areSimple es
termination_by structural es => es

end

theorem areSimple_append (es es' : List Expr) : areSimple (es ++ es') = (areSimple es && areSimple es') := by
  induction es with
  | nil => rfl
  | cons e es ih => rw [List.cons_append, areSimple, areSimple, ih, Bool.and_assoc]

/-- The token is an operator with a bar. -/
def Token.isBar (t : Token) : Bool := t = .op "|" || t = .op "|="

/-- The number of operators with a bar. -/
def bars (ts : List Token) : ℕ := ts.countP Token.isBar

theorem bars_cons {t : Token} (h : t.isBar = false) (ts : List Token) : bars (t :: ts) = bars ts := by
  rw [bars, List.countP_cons_of_neg (by rw [h]; exact Bool.false_ne_true), bars]

/-- What is read as a simple expression holds no operator with a bar. -/
structure Kept (fuel : ℕ) : Prop where
  expression {ts e rest} : expression fuel ts = some (e, rest) → e.isSimple = true → bars ts = bars rest
  namedExpression {ts e rest} : namedExpression fuel ts = some (e, rest) → e.isSimple = true → bars ts = bars rest
  element {ts e rest} : element fuel ts = some (e, rest) → e.isSimple = true → bars ts = bars rest
  operation {level ts e rest} : operation fuel level ts = some (e, rest) → e.isSimple = true → bars ts = bars rest
  operationTail {level left ts e rest} : operationTail fuel level left ts = some (e, rest) → e.isSimple = true →
    left.isSimple = true ∧ bars ts = bars rest
  factor {ts e rest} : factor fuel ts = some (e, rest) → e.isSimple = true → bars ts = bars rest
  primary {ts e rest} : primary fuel ts = some (e, rest) → e.isSimple = true → bars ts = bars rest
  primaryTail {e ts e' rest} : primaryTail fuel e ts = some (e', rest) → e'.isSimple = true →
    e.isSimple = true ∧ bars ts = bars rest
  atom {ts e rest} : atom fuel ts = some (e, rest) → e.isSimple = true → bars ts = bars rest
  textTail {cs formatted ts e rest} : textTail fuel cs formatted ts = some (e, rest) → e.isSimple = true →
    formatted = false ∧ bars ts = bars rest
  arguments {a ts a' rest} : arguments fuel a ts = some (a', rest) → a'.named = false → a'.unpacked = false →
    areSimple a'.positional = true →
    (a.named = false ∧ a.unpacked = false ∧ areSimple a.positional = true) ∧ bars ts = bars rest

variable {fuel : ℕ} {ts rest : List Token} {e : Expr}

theorem not_isSimple_of_map {α : Type} {o : Option α} {f : α → Expr × List Token}
    (h : o.map f = some (e, rest)) (hf : ∀ a, (f a).1.isSimple = false) : ¬e.isSimple = true := by
  rw [Option.map_eq_some_iff] at h
  obtain ⟨a, -, ha⟩ := h
  have := hf a
  rw [ha] at this
  rw [this]
  exact Bool.false_ne_true

theorem isSimple_call {f : Expr} {es : List Expr} {named : Bool} : (Expr.call f es named).isSimple = true ↔
    named = false ∧ f.isSimple = true ∧ areSimple es = true := by
  cases named <;> simp [Expr.isSimple]

theorem expect_eq_some {s : String} {after : List Token} (h : expect s ts = some after) : ts = .op s :: after := by
  unfold expect at h
  split at h
  · split_ifs at h with hs
    cases h
    rw [hs]
  · cases h

/-- Bytes are no simple expression. -/
theorem not_isSimple_bytesTail (h : bytesTail fuel ts = some (e, rest)) : ¬e.isSimple = true := by
  induction fuel generalizing ts with
  | zero => cases h
  | succ fuel ih =>
    rw [bytesTail.eq_def] at h
    dsimp only at h
    split at h
    · exact ih h
    · cases h
    · cases h
    · cases h
      exact Bool.false_ne_true

/-- Comprehensions are no simple expressions. -/
theorem not_isSimple_closeClauses {close : String} (h : closeClauses fuel close ts = some (e, rest)) :
    ¬e.isSimple = true := by
  rw [closeClauses.eq_def] at h
  split at h
  · cases h
  · split at h
    · exact not_isSimple_of_map h fun _ => rfl
    · cases h

namespace Kept

theorem expression_succ (k : Kept fuel) (h : Expression.expression (fuel + 1) ts = some (e, rest))
    (he : e.isSimple = true) : bars ts = bars rest := by
  rw [Expression.expression.eq_def] at h
  dsimp only at h
  split at h
  · split at h
    · exact absurd he (not_isSimple_of_map h fun _ => rfl)
    · cases h
  · split at h
    · split at h
      · exact absurd he (not_isSimple_of_map h fun _ => rfl)
      · cases h
    · exact k.operation h he

theorem namedExpression_succ (k : Kept fuel) (h : Expression.namedExpression (fuel + 1) ts = some (e, rest))
    (he : e.isSimple = true) : bars ts = bars rest := by
  rw [Expression.namedExpression.eq_def] at h
  dsimp only at h
  split at h
  · exact absurd he (not_isSimple_of_map h fun _ => rfl)
  · exact k.expression h he

theorem element_succ (k : Kept fuel) (h : Expression.element (fuel + 1) ts = some (e, rest))
    (he : e.isSimple = true) : bars ts = bars rest := by
  rw [Expression.element.eq_def] at h
  dsimp only at h
  split at h
  · exact absurd he (not_isSimple_of_map h fun _ => rfl)
  · exact k.namedExpression h he

theorem operation_succ (k : Kept fuel) {level : ℕ} (h : Expression.operation (fuel + 1) level ts = some (e, rest))
    (he : e.isSimple = true) : bars ts = bars rest := by
  rw [Expression.operation.eq_def] at h
  dsimp only at h
  split at h
  · split_ifs at h
    split at h
    · cases (k.operationTail h he).1
    · cases h
  · split at h
    · rename_i hfactor
      obtain ⟨hleft, hrest⟩ := k.operationTail h he
      rw [k.factor hfactor hleft, hrest]
    · cases h

theorem isSimple_combine (o : Operator) (left right : Expr) : (o.combine left right).isSimple = false := by
  unfold Operator.combine
  split <;> rfl

theorem operationTail_succ (k : Kept fuel) {level : ℕ} {left : Expr}
    (h : Expression.operationTail (fuel + 1) level left ts = some (e, rest)) (he : e.isSimple = true) :
    left.isSimple = true ∧ bars ts = bars rest := by
  -- an operator, a bar among them, makes an operation of what it follows, which is not simple
  rw [Expression.operationTail.eq_def] at h
  dsimp only at h
  split at h
  · split_ifs at h
    · split at h
      · have := (k.operationTail h he).1
        rw [isSimple_combine] at this
        cases this
      · cases h
    · cases h
      exact ⟨he, rfl⟩
  · cases h
    exact ⟨he, rfl⟩

theorem signed_succ (k : Kept fuel) {negative : Bool} {s : String} (hs : Token.isBar (.op s) = false)
    (h : (Expression.factor fuel ts).map (fun (e, after) => (Expr.signed negative e, after)) = some (e, rest))
    (he : e.isSimple = true) : bars (.op s :: ts) = bars rest := by
  rw [Option.map_eq_some_iff] at h
  obtain ⟨⟨e', after⟩, hfactor, hpair⟩ := h
  cases hpair
  rw [bars_cons hs, k.factor hfactor he]

theorem factor_succ (k : Kept fuel) (h : Expression.factor (fuel + 1) ts = some (e, rest))
    (he : e.isSimple = true) : bars ts = bars rest := by
  rw [Expression.factor.eq_def] at h
  dsimp only at h
  split at h
  · exact k.signed_succ (by decide) h he
  · exact k.signed_succ (by decide) h he
  · exact absurd he (not_isSimple_of_map h fun _ => rfl)
  · split at h
    · exact absurd he (not_isSimple_of_map h fun _ => rfl)
    · split at h
      · exact absurd he (not_isSimple_of_map h fun _ => rfl)
      · exact k.primary h he

theorem primary_succ (k : Kept fuel) (h : Expression.primary (fuel + 1) ts = some (e, rest))
    (he : e.isSimple = true) : bars ts = bars rest := by
  rw [Expression.primary.eq_def] at h
  dsimp only at h
  split at h
  · rename_i hatom
    obtain ⟨hfirst, hrest⟩ := k.primaryTail h he
    rw [k.atom hatom hfirst, hrest]
  · cases h

theorem primaryTail_succ (k : Kept fuel) {e' : Expr}
    (h : Expression.primaryTail (fuel + 1) e ts = some (e', rest)) (he : e'.isSimple = true) :
    e.isSimple = true ∧ bars ts = bars rest := by
  rw [Expression.primaryTail.eq_def] at h
  dsimp only at h
  split at h
  · cases (k.primaryTail h he).1
  · cases h
  · split at h
    · rename_i a after harguments
      obtain ⟨hcall, hrest⟩ := k.primaryTail h he
      obtain ⟨hflags, hf, hes⟩ := isSimple_call.mp hcall
      obtain ⟨hnamed, hunpacked⟩ := Bool.or_eq_false_iff.mp hflags
      have hkept := (k.arguments harguments hnamed hunpacked hes).2
      exact ⟨hf, by rw [bars_cons rfl, hkept, hrest]⟩
    · cases h
  · split at h
    · cases (k.primaryTail h he).1
    · cases h
  · cases h
    exact ⟨he, rfl⟩

theorem textTail_succ (k : Kept fuel) {ps : List Text.Point} {formatted : Bool}
    (h : Expression.textTail (fuel + 1) ps formatted ts = some (e, rest)) (he : e.isSimple = true) :
    formatted = false ∧ bars ts = bars rest := by
  rw [Expression.textTail.eq_def] at h
  dsimp only at h
  split at h
  · obtain ⟨hplain, hrest⟩ := k.textTail h he
    exact ⟨hplain, by rw [bars_cons rfl, hrest]⟩
  · split_ifs at h
    cases (k.textTail h he).1
  · cases h
  · cases h
    refine ⟨?_, rfl⟩
    cases formatted
    · rfl
    · cases he

theorem atom_succ (k : Kept fuel) (h : Expression.atom (fuel + 1) ts = some (e, rest))
    (he : e.isSimple = true) : bars ts = bars rest := by
  rw [Expression.atom.eq_def] at h
  dsimp only at h
  split at h
  · cases h
    exact bars_cons rfl rest
  · cases h
    exact bars_cons rfl rest
  · cases h
    exact bars_cons rfl rest
  · cases h
    exact bars_cons rfl rest
  · cases h
    exact bars_cons rfl rest
  · cases h
    exact bars_cons rfl rest
  · cases h
    cases he
  · cases h
    cases he
  · rw [bars_cons rfl, (k.textTail h he).2]
  · exact absurd he (not_isSimple_bytesTail h)
  · split_ifs at h
    cases (k.textTail h he).1
  · cases h
    cases he
  · split at h
    · exact absurd he (not_isSimple_of_map h fun _ => rfl)
    · cases h
  · split at h
    · rename_i helement
      split_ifs at h
      · exact absurd he (not_isSimple_closeClauses h)
      · exact absurd he (not_isSimple_of_map h fun _ => rfl)
      · rw [Option.map_eq_some_iff] at h
        obtain ⟨after, hclose, hpair⟩ := h
        cases hpair
        rw [bars_cons rfl, k.element helement he, expect_eq_some hclose, bars_cons rfl]
    · cases h
  · cases h
    cases he
  · split at h
    · split_ifs at h
      · exact absurd he (not_isSimple_closeClauses h)
      · exact absurd he (not_isSimple_of_map h fun _ => rfl)
    · cases h
  · cases h
    cases he
  · exact absurd he (not_isSimple_of_map h fun _ => rfl)
  · split at h
    · split_ifs at h
      split at h
      · split_ifs at h
        · exact absurd he (not_isSimple_closeClauses h)
        · exact absurd he (not_isSimple_of_map h fun _ => rfl)
      · cases h
    · split_ifs at h
      · exact absurd he (not_isSimple_closeClauses h)
      · exact absurd he (not_isSimple_of_map h fun _ => rfl)
    · cases h
  · cases h

theorem afterArgument (k : Kept fuel) {a a' : Arguments}
    (h : Expression.afterArgument fuel a ts = some (a', rest)) (hnamed : a'.named = false)
    (hunpacked : a'.unpacked = false) (hes : areSimple a'.positional = true) :
    (a.named = false ∧ a.unpacked = false ∧ areSimple a.positional = true) ∧ bars ts = bars rest := by
  unfold Expression.afterArgument at h
  split at h
  · cases h
    exact ⟨⟨hnamed, hunpacked, hes⟩, bars_cons rfl rest⟩
  · obtain ⟨hkept, hrest⟩ := k.arguments h hnamed hunpacked hes
    exact ⟨hkept, by rw [bars_cons rfl, hrest]⟩
  · cases h

theorem arguments_succ (k : Kept fuel) {a a' : Arguments}
    (h : Expression.arguments (fuel + 1) a ts = some (a', rest)) (hnamed : a'.named = false)
    (hunpacked : a'.unpacked = false) (hes : areSimple a'.positional = true) :
    (a.named = false ∧ a.unpacked = false ∧ areSimple a.positional = true) ∧ bars ts = bars rest := by
  rw [Expression.arguments.eq_def] at h
  dsimp only at h
  split at h
  · cases h
    exact ⟨⟨hnamed, hunpacked, hes⟩, bars_cons rfl rest⟩
  · split at h
    · cases (k.afterArgument h hnamed hunpacked hes).1.2.1
    · cases h
  · split_ifs at h
    split at h
    · have := (k.afterArgument h hnamed hunpacked hes).1.2.2
      rw [areSimple_append] at this
      cases (Bool.and_eq_true_iff.mp this).2
    · cases h
  · split at h
    · cases (k.afterArgument h hnamed hunpacked hes).1.1
    · cases h
  · split at h
    · cases h
    · split at h
      · rename_i hnext
        split at h
        · split at h
          · rw [Option.map_eq_some_iff] at h
            obtain ⟨⟨e, after⟩, hclose, hpair⟩ := h
            cases hpair
            rw [areSimple, Bool.and_eq_true_iff] at hes
            exact absurd hes.1 (not_isSimple_closeClauses hclose)
          · cases h
        · obtain ⟨⟨hn, hu, hall⟩, hrest⟩ := k.afterArgument h hnamed hunpacked hes
          rw [areSimple_append, Bool.and_eq_true_iff, areSimple, Bool.and_eq_true_iff] at hall
          exact ⟨⟨hn, hu, hall.1⟩, by rw [k.namedExpression hnext hall.2.1, hrest]⟩
      · cases h

end Kept

/-- **What is read as a simple expression holds no operator with a bar.** -/
theorem kept (fuel : ℕ) : Kept fuel := by
  induction fuel with
  | zero =>
    constructor <;> intros <;> simp_all [expression, namedExpression, element, operation, operationTail, factor,
      primary, primaryTail, atom, textTail, arguments]
  | succ fuel k =>
    exact ⟨k.expression_succ, k.namedExpression_succ, k.element_succ, k.operation_succ, k.operationTail_succ,
      k.factor_succ, k.primary_succ, k.primaryTail_succ, k.atom_succ, k.textTail_succ, k.arguments_succ⟩

/-! ## Whole texts -/

theorem bars_append (ts ts' : List Token) : bars (ts ++ ts') = bars ts + bars ts' := List.countP_append

theorem bars_eq_zero {p : Token → Bool} (hp : ∀ t, p t = true → t.isBar = false) (h : ∀ t ∈ ts, p t = true) :
    bars ts = 0 := by
  rw [bars, List.countP_eq_zero]
  intro t ht
  rw [hp t (h t ht)]
  exact Bool.false_ne_true

theorem isBar_of_newline (t : Token) (h : (t matches .newline) = true) : t.isBar = false := by
  cases t <;> first | rfl | cases h

/-- A list of expressions that is no tuple is one expression. -/
theorem expressions_eq_some {n : ℕ} {es : List Expr} (h : expressions fuel n ts = some (es, false, rest)) :
    ∃ e, es = [e] ∧ expression fuel ts = some (e, rest) := by
  obtain _ | n := n
  · cases h
  · rw [expressions] at h
    split at h
    · split_ifs at h
      · cases h
      · rw [Option.map_eq_some_iff] at h
        obtain ⟨_, -, hpair⟩ := h
        cases hpair
    · rename_i hexpression
      cases h
      exact ⟨_, rfl, hexpression⟩
    · cases h

/-- **A text that is parsed as a simple expression has no operator with a bar.** -/
theorem exists_lex_of_parse {cs : List Char} (h : parse cs = some e) (he : e.isSimple = true) :
    ∃ ts, lex cs = some ts ∧ bars ts = 0 := by
  rw [parse, Option.bind_eq_some_iff] at h
  obtain ⟨ts, hlex, h⟩ := h
  refine ⟨ts, hlex, ?_⟩
  dsimp only at h
  split at h
  · rename_i es isTuple rest hexpressions
    split at h
    · rename_i hnewlines
      split at h
      · cases h
        obtain ⟨e', hsingle, hexpression⟩ := expressions_eq_some hexpressions
        cases hsingle
        have hkept := (kept _).expression hexpression he
        have hrest : bars rest = 0 := bars_eq_zero isBar_of_newline (List.all_eq_true.mp hnewlines)
        rw [← List.takeWhile_append_dropWhile (p := fun t => t matches .newline) (l := ts), bars_append,
          bars_eq_zero isBar_of_newline (List.all_eq_true.mp List.all_takeWhile), Nat.zero_add]
        exact hkept.trans hrest
      · cases h
        cases he
    · cases h
  · cases h

/-! ## Literals -/

theorem isSimple_of_number? {e : Expr} {l : Literal} (h : e.number? = some l) (hl : l ≠ .imaginary) :
    e.isSimple = true := by
  unfold Expr.number? at h
  split at h
  · rfl
  · rfl
  · cases h
    exact absurd rfl hl
  · cases h

theorem addImaginary_ne_scalar (a b : Literal) (v : Scalar) : addImaginary a b ≠ .ok (.scalar v) := by
  unfold addImaginary
  split
  · split_ifs <;> (rintro ⟨⟩)
  · rintro ⟨⟩
  · rintro ⟨⟩

/-- Scalars are written as simple expressions. -/
theorem isSimple_of_evaluate {e : Expr} {v : Scalar} (h : e.evaluate = .ok (.scalar v)) :
    e.isSimple = true := by
  have hcompound {α : Type} {o : Except LiteralFault α} {f : α → Option String}
      (h : (o.map fun a => Literal.compound (f a)) = .ok (.scalar v)) : False := by
    obtain ⟨a, -, ha⟩ := map_eq_ok.mp h
    cases ha
  unfold Expr.evaluate at h
  split at h
  · rfl
  · cases h
  · cases h
  · split at h
    · rename_i negative e _ l hnumber
      cases h
      obtain ⟨l, he, hsign⟩ := Option.map_eq_some_iff.mp hnumber
      have hl : l ≠ .imaginary := by
        rintro rfl
        cases negative <;> cases hsign
      have hsimple := isSimple_of_number? he hl
      exact hsimple
    · cases h
  · split at h
    · exact absurd h (addImaginary_ne_scalar _ _ v)
    · cases h
  · exact (hcompound h).elim
  · exact (hcompound h).elim
  · exact (hcompound h).elim
  · exact (hcompound h).elim
  · cases h
  · cases h

end Gabarit.Expression
