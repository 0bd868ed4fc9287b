import Gabarit.Expression.Literal
import Gabarit.Proofs.Expression.Lexeme

/-!
# Parsing operands and calls

* `Operand`: the tokens of names and literals, with at most one sign;
* `factor_of_primary`, `expression_of_factor`: what is no part of a larger form is passed up through the
  levels of the parser;
* `arguments_closedTokens`: the arguments of a call, one after the other;
* **`Operand.parse`**, **`parse_call`**: a text with the tokens of an operand, or of a call, is parsed as it.
-/

namespace Gabarit.Expression

/-- The operand that a token is by itself. -/
def operand? : Token → Option Expr
  | .name s => some (.name s)
  | .keyword "None" => some (.scalar .null)
  | .keyword "True" => some (.scalar (.bool true))
  | .keyword "False" => some (.scalar (.bool false))
  | .int n => some (.scalar (.int n))
  | .float x => some (.scalar (.float x))
  | .text ps => some (.scalar (.ofPoints ps))
  | _ => none

/-- The tokens are those of an operand that calls and literals are made of. -/
inductive Operand : List Token → Expr → Prop
  | plain {t : Token} {e : Expr} : operand? t = some e → Operand [t] e
  | negative {t : Token} {e : Expr} : operand? t = some e → Operand [.op "-", t] (.signed true e)

/-- The tokens go on with a comma or a closing bracket, if they go on. -/
def Follows (rest : List Token) : Prop := ∀ t ∈ rest.head?, t = .op "," ∨ t = .op ")"

variable {t : Token} {ts : List Token} {e : Expr} {rest : List Token}

theorem Follows.cases (h : Follows rest) :
    rest = [] ∨ (∃ r, rest = .op "," :: r) ∨ ∃ r, rest = .op ")" :: r := by
  obtain _ | ⟨t, r⟩ := rest
  · exact .inl rfl
  · obtain rfl | rfl := h t rfl
    · exact .inr (.inl ⟨r, rfl⟩)
    · exact .inr (.inr ⟨r, rfl⟩)

theorem atom_operand (h : operand? t = some e) (hrest : Follows rest) (fuel : ℕ) :
    atom (fuel + 2) (t :: rest) = some (e, rest) := by
  unfold operand? at h
  rw [atom.eq_def]
  split at h <;> cases h
  case h_7 =>
    dsimp only
    rw [textTail.eq_def]
    obtain rfl | ⟨r, rfl⟩ | ⟨r, rfl⟩ := hrest.cases <;> rfl
  all_goals rfl

theorem primary_operand (h : operand? t = some e) (hrest : Follows rest) (fuel : ℕ) :
    primary (fuel + 3) (t :: rest) = some (e, rest) := by
  rw [primary.eq_def]
  dsimp only
  rw [atom_operand h hrest]
  dsimp only
  rw [primaryTail.eq_def]
  obtain rfl | ⟨r, rfl⟩ | ⟨r, rfl⟩ := hrest.cases <;> rfl

theorem Follows.operator? (h : Follows rest) : operator? rest = none := by
  obtain rfl | ⟨r, rfl⟩ | ⟨r, rfl⟩ := h.cases <;> rfl

/-- No sign and no word that starts a larger expression stands in front. -/
def Bare (ts : List Token) : Prop :=
  ∀ t ∈ ts.head?, t ∉ [.op "-", .op "+", .op "~", .keyword "await", .keyword "not", .keyword "lambda"]

theorem bare_of_operand? (h : operand? t = some e) : Bare (t :: ts) := by
  rintro _ ⟨⟩
  simp only [List.mem_cons, List.not_mem_nil, or_false]
  rintro (rfl | rfl | rfl | rfl | rfl | rfl) <;> cases h

theorem factor_of_primary {fuel : ℕ} (h : primary fuel ts = some (e, rest)) (hts : Bare ts)
    (hrest : Follows rest) : factor (fuel + 1) ts = some (e, rest) := by
  rw [factor.eq_def]
  dsimp only
  split
  · exact absurd (hts _ rfl) (by decide)
  · exact absurd (hts _ rfl) (by decide)
  · exact absurd (hts _ rfl) (by decide)
  · split
    · rename_i hbase
      split at hbase
      · exact absurd (hts _ rfl) (by decide)
      · rw [h] at hbase
        cases hbase
        obtain h | h := hrest _ rfl <;> exact absurd h (by decide)
    · split
      · exact absurd (hts _ rfl) (by decide)
      · exact h

theorem factor_operand (h : Operand ts e) (hrest : Follows rest) (fuel : ℕ) :
    factor (fuel + 5) (ts ++ rest) = some (e, rest) := by
  cases h with
  | plain h => exact factor_of_primary (primary_operand h hrest (fuel + 1)) (bare_of_operand? h) hrest
  | negative h =>
    have hfactor := factor_of_primary (primary_operand h hrest fuel) (bare_of_operand? h) hrest
    rw [factor.eq_def]
    simp [hfactor]

/-- An operand is an expression by itself. -/
theorem expression_of_factor {fuel : ℕ} (h : factor (fuel + 1) ts = some (e, rest))
    (hnot : ∀ r, ts ≠ .keyword "not" :: r) (hlambda : ∀ r, ts ≠ .keyword "lambda" :: r)
    (hrest : Follows rest) : expression (fuel + 3) ts = some (e, rest) := by
  have htail : operationTail (fuel + 1) 0 e rest = some (e, rest) := by
    rw [operationTail.eq_def]
    simp [hrest.operator?]
  have hoperation : operation (fuel + 2) 0 ts = some (e, rest) := by
    rw [operation.eq_def]
    dsimp only
    split
    · exact absurd rfl (hnot _)
    · simp [h, htail]
  rw [expression.eq_def]
  dsimp only
  split
  · exact absurd rfl (hlambda _)
  · rw [hoperation]
    obtain rfl | ⟨r, rfl⟩ | ⟨r, rfl⟩ := hrest.cases <;> rfl

namespace Operand

theorem not_starts (h : Operand ts e) {r : List Token} (hts : ts ++ rest = t :: r) :
    t ∉ [.op ")", .op "*", .op "**", .keyword "not", .keyword "lambda"] := by
  cases h with
  | plain h =>
    obtain ⟨rfl, -⟩ := List.cons.inj hts
    simp only [List.mem_cons, List.not_mem_nil, or_false]
    rintro (rfl | rfl | rfl | rfl | rfl) <;> cases h
  | negative h =>
    obtain ⟨rfl, -⟩ := List.cons.inj hts
    decide

theorem not_binds (h : Operand ts e) (hrest : Follows rest) {s o : String} {r : List Token}
    (ho : o ∈ [":=", "="]) : ts ++ rest ≠ .name s :: .op o :: r := by
  intro hts
  cases h with
  | plain h =>
    obtain ⟨rfl, rfl⟩ := List.cons.inj hts
    simp only [List.mem_cons, List.not_mem_nil, or_false] at ho
    obtain rfl | rfl := ho <;> (obtain h | h := hrest _ rfl <;> exact absurd h (by decide))
  | negative h => cases hts

theorem expression (h : Operand ts e) (hrest : Follows rest) (fuel : ℕ) :
    expression (fuel + 7) (ts ++ rest) = some (e, rest) :=
  expression_of_factor (factor_operand h hrest fuel) (fun _ hts => h.not_starts hts (by decide))
    (fun _ hts => h.not_starts hts (by decide)) hrest

theorem namedExpression (h : Operand ts e) (hrest : Follows rest) (fuel : ℕ) :
    namedExpression (fuel + 8) (ts ++ rest) = some (e, rest) := by
  rw [Expression.namedExpression.eq_def]
  dsimp only
  split
  · exact absurd ‹_› (h.not_binds hrest (by decide))
  · exact h.expression hrest fuel

end Operand

/-! ## Calls -/

/-- The tokens of arguments, divided by commas, and of the closing bracket. -/
def closedTokens : List (List Token) → List Token
  | [] => [.op ")"]
  | [ts] => ts ++ [.op ")"]
  | ts :: rest => ts ++ .op "," :: closedTokens rest

theorem follows_comma (rest : List Token) : Follows (.op "," :: rest) := by
  rintro _ ⟨⟩
  exact .inl rfl

theorem follows_close (rest : List Token) : Follows (.op ")" :: rest) := by
  rintro _ ⟨⟩
  exact .inr rfl

/-- What follows an argument: the closing bracket, or a comma and the next argument. -/
def afterArgument (fuel : ℕ) (a : Arguments) : List Token → Option (Arguments × List Token)
  | .op ")" :: after => some (a, after)
  | .op "," :: after => arguments fuel a after
  | _ => none

theorem arguments_operand (h : Operand ts e) (hrest : Follows rest) (fuel : ℕ) (done : List Expr) :
    arguments (fuel + 9) { positional := done } (ts ++ rest) =
      afterArgument (fuel + 8) { positional := done ++ [e] } rest := by
  have hnamed := h.namedExpression hrest fuel
  have hclause : startsClause rest = false := by
    obtain rfl | ⟨r, rfl⟩ | ⟨r, rfl⟩ := hrest.cases <;> rfl
  rw [arguments.eq_def]
  dsimp only
  split
  · exact absurd (h.not_starts ‹_›) (by decide)
  · exact absurd (h.not_starts ‹_›) (by decide)
  · exact absurd (h.not_starts ‹_›) (by decide)
  · exact absurd ‹_› (h.not_binds hrest (by decide))
  · simp only [hnamed, hclause, Bool.or_false, Bool.false_eq_true, if_false]
    rfl

/-- **The arguments of a call are read in their order.** -/
theorem arguments_closedTokens {tss : List (List Token)} {es : List Expr}
    (h : List.Forall₂ Operand tss es) (fuel : ℕ) (done : List Expr) :
    arguments (fuel + tss.length + 9) { positional := done } (closedTokens tss ++ rest) =
      some ({ positional := done ++ es }, rest) := by
  induction h generalizing done with
  | nil =>
    rw [arguments.eq_def, List.append_nil]
    rfl
  | @cons ts e tss es hts htss ih =>
    obtain _ | ⟨ts', tss⟩ := tss
    · cases htss
      rw [closedTokens, List.append_assoc]
      exact arguments_operand hts (follows_close rest) _ done
    · rw [closedTokens, List.append_assoc, List.cons_append, arguments_operand hts (follows_comma _)]
      · have hlen : fuel + (ts :: ts' :: tss).length + 8 = fuel + (ts' :: tss).length + 9 := by
          simp only [List.length_cons]
          omega
        rw [afterArgument, hlen, ih, List.append_assoc, List.singleton_append]
      · exact List.cons_ne_nil ts' tss

/-- The tokens of a call. -/
def callTokens (f : String) (tss : List (List Token)) : List Token :=
  .name f :: .op "(" :: closedTokens tss

variable {f : String} {tss : List (List Token)} {es : List Expr}

theorem primary_call (h : List.Forall₂ Operand tss es) (fuel : ℕ) :
    primary (fuel + tss.length + 11) (callTokens f tss) = some (.call (.name f) es false, []) := by
  have harguments : arguments (fuel + tss.length + 9) { positional := [] } (closedTokens tss) =
      some ({ positional := es }, []) := by
    rw [← List.append_nil (closedTokens tss), arguments_closedTokens h, List.nil_append]
  rw [callTokens, primary.eq_def]
  dsimp only
  rw [atom.eq_def]
  dsimp only
  rw [primaryTail.eq_def]
  simp only [harguments]
  rw [primaryTail.eq_def]
  rfl

/-! ## Whole texts -/

variable {cs : List Char}

theorem parse_of_expression (hlex : lex cs = some ts) (hline : .newline ∉ ts.head?)
    (h : expression (16 * (cs.length + 4)) ts = some (e, [])) : parse cs = some e := by
  rw [parse, hlex, Option.bind_some]
  obtain _ | ⟨t, ts⟩ := ts
  · simp [expressions, h]
  · cases t
    case newline => exact absurd rfl hline
    all_goals simp [expressions, h]

/-- **The tokens of an operand are parsed as the operand.** -/
theorem Operand.parse (h : Operand ts e) (hlex : lex cs = some ts) : parse cs = some e := by
  obtain ⟨fuel, hfuel⟩ : ∃ fuel, 16 * (cs.length + 4) = fuel + 7 := ⟨16 * (cs.length + 4) - 7, by omega⟩
  refine parse_of_expression hlex ?_ ?_
  · cases h with
    | plain h =>
      rintro ⟨⟩
      cases h
    | negative h => nofun
  · have hexpression : Expression.expression (fuel + 7) ts = some (e, []) := by
      have hend : Follows [] := nofun
      rw [← List.append_nil ts, h.expression hend]
    rw [hfuel, hexpression]

/-- **The tokens of a call with literal arguments are parsed as the call.** -/
theorem parse_call (h : List.Forall₂ Operand tss es) (hlex : lex cs = some (callTokens f tss))
    (hlen : tss.length ≤ cs.length) : parse cs = some (.call (.name f) es false) := by
  obtain ⟨fuel, hfuel⟩ : ∃ fuel, 16 * (cs.length + 4) = fuel + tss.length + 14 :=
    ⟨16 * (cs.length + 4) - tss.length - 14, by omega⟩
  have hbare : Bare (callTokens f tss) := bare_of_operand? (t := .name f) rfl
  refine parse_of_expression hlex nofun ?_
  rw [hfuel]
  exact expression_of_factor (factor_of_primary (primary_call h fuel) hbare nofun) nofun nofun nofun

end Gabarit.Expression
