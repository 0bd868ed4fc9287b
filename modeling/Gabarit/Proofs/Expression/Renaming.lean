import Gabarit.Proofs.Expression.Place

/-!
# Renaming names

The parser does not look at how a name is spelled.

* `Token.rename`, `Expr.rename`: tokens, and simple expressions, with other names;
* `Expr.names`: the names in a simple expression, in the order in which they are written;
* `Renamed`, `renamed`: tokens with other names are parsed as the expression with these names, and the names
  in an expression are those among its tokens;
* **`parse_rename`**, **`names_of_parse`**: and so it is with whole texts.
-/

namespace Gabarit.Expression

/-- The token with another name, if it is a name. -/
def Token.rename (ρ : String → String) : Token → Token
  | .name s => .name (ρ s)
  | t => t

/-- The name that a token is. -/
def Token.name? : Token → Option String
  | .name s => some s
  | _ => none

/-- The names among tokens. -/
def nameTokens (ts : List Token) : List String := ts.filterMap Token.name?

mutual

/-- A simple expression with other names. -/
def Expr.rename (ρ : String → String) : Expr → Expr
  | .name s => .name (ρ s)
  | .signed negative e => .signed negative (e.rename ρ)
  | .call f es named => .call (f.rename ρ) (renameAll ρ es) named
  | e => e
termination_by structural e => e

/-- Simple expressions with other names. -/
def renameAll (ρ : String → String) : List Expr → List Expr
  | [] => []
  | e :: es => e.rename ρ :: renameAll ρ es
termination_by structural es => es

end

mutual

/-- The names in a simple expression. -/
def Expr.names : Expr → List String
  | .name s => [s]
  | .signed _ e => e.names
  | .call f es _ => f.names ++ namesAll es
  | _ => []
termination_by structural e => e

/-- The names in simple expressions. -/
def namesAll : List Expr → List String
  | [] => []
  | e :: es => e.names ++ namesAll es
termination_by structural es => es

end

section

variable {ρ : String → String} {ts rest : List Token} {t : Token} {e : Expr}

theorem renameAll_append (es es' : List Expr) : renameAll ρ (es ++ es') = renameAll ρ es ++ renameAll ρ es' := by
  induction es with
  | nil => rfl
  | cons e es ih => rw [List.cons_append, renameAll, renameAll, ih, List.cons_append]

theorem namesAll_append (es es' : List Expr) : namesAll (es ++ es') = namesAll es ++ namesAll es' := by
  induction es with
  | nil => rfl
  | cons e es ih => rw [List.cons_append, namesAll, namesAll, ih, List.append_assoc]

theorem mem_namesAll {s : String} {es : List Expr} : s ∈ namesAll es ↔ ∃ e ∈ es, s ∈ e.names := by
  induction es with
  | nil => simp [namesAll]
  | cons e es ih => rw [namesAll, List.mem_append, ih, List.exists_mem_cons_iff]

theorem nameTokens_append (ts ts' : List Token) : nameTokens (ts ++ ts') = nameTokens ts ++ nameTokens ts' :=
  List.filterMap_append

theorem nameTokens_cons (ht : t.name? = none) (ts : List Token) : nameTokens (t :: ts) = nameTokens ts :=
  List.filterMap_cons_none ht

/-- Tokens with other names. -/
def renameTokens (ρ : String → String) (ts : List Token) : List Token := ts.map (Token.rename ρ)

mutual

theorem Expr.rename_eq_self {e : Expr} (h : ∀ s ∈ e.names, ρ s = s) : e.rename ρ = e := by
  cases e with
  | name s => rw [Expr.rename, h s List.mem_cons_self]
  | signed negative e => rw [Expr.rename, Expr.rename_eq_self (e := e) h]
  | call f es named =>
    obtain ⟨hf, hes⟩ := List.forall_mem_append.mp h
    rw [Expr.rename, Expr.rename_eq_self hf, renameAll_eq_self hes]
  | _ => rfl
termination_by structural e

theorem renameAll_eq_self {es : List Expr} (h : ∀ s ∈ namesAll es, ρ s = s) : renameAll ρ es = es := by
  cases es with
  | nil => rfl
  | cons e es =>
    obtain ⟨he, hes⟩ := List.forall_mem_append.mp h
    rw [renameAll, Expr.rename_eq_self he, renameAll_eq_self hes]
termination_by structural es

end

theorem mem_nameTokens {s : String} : s ∈ nameTokens ts ↔ .name s ∈ ts := by
  rw [nameTokens, List.mem_filterMap]
  constructor
  · rintro ⟨t, ht, hs⟩
    cases t with
    | name s' =>
      cases hs
      exact ht
    | _ => cases hs
  · exact fun h => ⟨_, h, rfl⟩

theorem renameTokens_eq_self (h : ∀ s, .name s ∈ ts → ρ s = s) : renameTokens ρ ts = ts := by
  refine (List.map_congr_left fun t ht => ?_).trans (List.map_id ts)
  cases t with
  | name s => exact congrArg Token.name (h s ht)
  | _ => rfl

theorem exists_of_renameTokens (ht : t.name? = none) (h : renameTokens ρ ts = t :: rest) :
    ∃ rest', ts = t :: rest' ∧ renameTokens ρ rest' = rest := by
  obtain ⟨t', rest', rfl, ht', hrest⟩ := List.map_eq_cons_iff.mp h
  refine ⟨rest', ?_, hrest⟩
  cases t' with
  | name s =>
    subst ht'
    cases ht
  | _ => rw [← ht']; rfl

theorem exists_of_renameTokens_name {s : String} (h : renameTokens ρ ts = .name s :: rest) :
    ∃ s' rest', ts = .name s' :: rest' ∧ renameTokens ρ rest' = rest := by
  obtain ⟨t', rest', rfl, ht', hrest⟩ := List.map_eq_cons_iff.mp h
  cases t' with
  | name s' => exact ⟨s', rest', rfl, hrest⟩
  | _ => cases ht'

theorem not_renameTokens (ht : t.name? = none) (h : ∀ r, ts = t :: r → False) :
    ∀ r, renameTokens ρ ts = t :: r → False := by
  intro r hr
  obtain ⟨r', hts, -⟩ := exists_of_renameTokens ht hr
  exact h r' hts

theorem not_renameTokens_two {t' : Token} (ht : t.name? = none) (ht' : t'.name? = none)
    (h : ∀ r, ts = t :: t' :: r → False) : ∀ r, renameTokens ρ ts = t :: t' :: r → False := by
  intro r hr
  obtain ⟨r', rfl, hr'⟩ := exists_of_renameTokens ht hr
  obtain ⟨r'', rfl, -⟩ := exists_of_renameTokens ht' hr'
  exact h r'' rfl

/-- A name before another token is one before that token still. -/
theorem not_renameTokens_name {t' : Token} (ht' : t'.name? = none) (h : ∀ s r, ts = .name s :: t' :: r → False) :
    ∀ s r, renameTokens ρ ts = .name s :: t' :: r → False := by
  intro s r hr
  obtain ⟨s', r', rfl, hr'⟩ := exists_of_renameTokens_name hr
  obtain ⟨r'', rfl, -⟩ := exists_of_renameTokens ht' hr'
  exact h s' r'' rfl

theorem operator?_rename (ρ : String → String) (ts : List Token) :
    operator? (renameTokens ρ ts) = (operator? ts).map fun (o, rest) => (o, renameTokens ρ rest) := by
  rw [operator?.eq_def ts]
  split
  · rename_i s rest
    show (signOperators.lookup s).map (·, renameTokens ρ rest) = _
    rw [Option.map_map]
    rfl
  · rfl
  · rfl
  · rfl
  · rfl
  · rfl
  · rename_i rest hnot
    exact operator?.eq_7 _ (not_renameTokens rfl hnot)
  · rename_i hop hor hand hin hnotin hisnot his
    exact operator?.eq_8 _ (fun s => not_renameTokens rfl (hop s)) (not_renameTokens rfl hor)
      (not_renameTokens rfl hand) (not_renameTokens rfl hin) (not_renameTokens_two rfl rfl hnotin)
      (not_renameTokens_two rfl rfl hisnot) (not_renameTokens rfl his)

/-- The tokens are read as the expression up to the rest, the names in the expression are those that are read,
and the tokens with other names are read as the expression with these names, given enough fuel. -/
def Reads (ρ : String → String) (cost : ℕ) (read : ℕ → List Token → Option (Expr × List Token))
    (ts : List Token) (e : Expr) (rest : List Token) : Prop :=
  ∃ used, ts = used ++ rest ∧ nameTokens used = e.names ∧ ∀ fuel, 16 * used.length + cost ≤ fuel →
    read fuel (renameTokens ρ ts) = some (e.rename ρ, renameTokens ρ rest)

theorem Reads.lift {cost : ℕ} {read read' : ℕ → List Token → Option (Expr × List Token)}
    (h : Reads ρ cost read ts e rest)
    (hstep : ∀ fuel, read fuel (renameTokens ρ ts) = some (e.rename ρ, renameTokens ρ rest) → 0 < fuel →
      read' (fuel + 1) (renameTokens ρ ts) = some (e.rename ρ, renameTokens ρ rest)) (hcost : 0 < cost) :
    Reads ρ (cost + 1) read' ts e rest := by
  obtain ⟨used, hts, hnames, hread⟩ := h
  refine ⟨used, hts, hnames, fun fuel hfuel => ?_⟩
  obtain ⟨fuel, rfl⟩ : ∃ n, fuel = n + 1 := ⟨fuel - 1, by omega⟩
  exact hstep fuel (hread fuel (by omega)) (by omega)

/-- The arguments of a call with other names. -/
def Arguments.rename (ρ : String → String) (a : Arguments) : Arguments :=
  { a with positional := renameAll ρ a.positional }

end

/-- What is read as a simple expression is read so with other names. -/
structure Renamed (ρ : String → String) (fuel : ℕ) : Prop where
  expression {ts e rest} : expression fuel ts = some (e, rest) → e.isSimple = true →
    Reads ρ 5 Expression.expression ts e rest
  namedExpression {ts e rest} : namedExpression fuel ts = some (e, rest) → e.isSimple = true →
    Reads ρ 6 Expression.namedExpression ts e rest
  element {ts e rest} : element fuel ts = some (e, rest) → e.isSimple = true →
    Reads ρ 7 Expression.element ts e rest
  operation {level ts e rest} : operation fuel level ts = some (e, rest) → e.isSimple = true →
    Reads ρ 4 (Expression.operation · level) ts e rest
  operationTail {level left ts e rest} : operationTail fuel level left ts = some (e, rest) → e.isSimple = true →
    left = e ∧ ts = rest ∧ ∀ fuel, 0 < fuel →
      Expression.operationTail fuel level (e.rename ρ) (renameTokens ρ rest) =
        some (e.rename ρ, renameTokens ρ rest)
  factor {ts e rest} : factor fuel ts = some (e, rest) → e.isSimple = true → Reads ρ 3 Expression.factor ts e rest
  primary {ts e rest} : primary fuel ts = some (e, rest) → e.isSimple = true →
    Reads ρ 2 Expression.primary ts e rest
  primaryTail {e ts e' rest} : primaryTail fuel e ts = some (e', rest) → e'.isSimple = true →
    ∃ used, ts = used ++ rest ∧ e.names ++ nameTokens used = e'.names ∧ ∀ fuel, 16 * used.length + 1 ≤ fuel →
      Expression.primaryTail fuel (e.rename ρ) (renameTokens ρ ts) = some (e'.rename ρ, renameTokens ρ rest)
  atom {ts e rest} : atom fuel ts = some (e, rest) → e.isSimple = true → Reads ρ 1 Expression.atom ts e rest
  textTail {ps formatted ts e rest} : textTail fuel ps formatted ts = some (e, rest) → e.isSimple = true →
    Reads ρ 1 (Expression.textTail · ps formatted) ts e rest
  arguments {a ts a' rest} : arguments fuel a ts = some (a', rest) → a'.named = false → a'.unpacked = false →
    areSimple a'.positional = true →
    ∃ used, ts = used ++ rest ∧ namesAll a.positional ++ nameTokens used = namesAll a'.positional ∧
      ∀ fuel, 16 * used.length + 7 ≤ fuel → Expression.arguments fuel (a.rename ρ) (renameTokens ρ ts) =
        some (a'.rename ρ, renameTokens ρ rest)

variable {ρ : String → String} {fuel : ℕ} {ts rest : List Token} {e : Expr}

namespace Renamed

theorem expression_succ (k : Renamed ρ fuel) (h : Expression.expression (fuel + 1) ts = some (e, rest))
    (he : e.isSimple = true) : Reads ρ 5 Expression.expression ts e rest := by
  rw [Expression.expression.eq_def] at h
  dsimp only at h
  split at h
  · split at h
    · exact absurd he (not_isSimple_of_map h fun _ => rfl)
    · cases h
  · rename_i hlambda
    split at h
    · split at h
      · exact absurd he (not_isSimple_of_map h fun _ => rfl)
      · cases h
    · rename_i hif
      refine (k.operation h he).lift (fun fuel hread _ => ?_) (by decide)
      rw [Expression.expression.eq_3 _ _ (not_renameTokens rfl hlambda), hread]
      dsimp only
      split
      · rename_i heq
        obtain ⟨-, hrest⟩ := Prod.mk.inj (Option.some.inj heq)
        obtain ⟨r, rfl, -⟩ := exists_of_renameTokens rfl hrest
        exact (hif _ _ h).elim
      · rfl

theorem namedExpression_succ (k : Renamed ρ fuel) (h : Expression.namedExpression (fuel + 1) ts = some (e, rest))
    (he : e.isSimple = true) : Reads ρ 6 Expression.namedExpression ts e rest := by
  rw [Expression.namedExpression.eq_def] at h
  dsimp only at h
  split at h
  · exact absurd he (not_isSimple_of_map h fun _ => rfl)
  · rename_i hbinds
    refine (k.expression h he).lift (fun fuel hread _ => ?_) (by decide)
    rw [Expression.namedExpression.eq_3 _ _ (not_renameTokens_name rfl hbinds), hread]

theorem element_succ (k : Renamed ρ fuel) (h : Expression.element (fuel + 1) ts = some (e, rest))
    (he : e.isSimple = true) : Reads ρ 7 Expression.element ts e rest := by
  rw [Expression.element.eq_def] at h
  dsimp only at h
  split at h
  · exact absurd he (not_isSimple_of_map h fun _ => rfl)
  · rename_i hstar
    refine (k.namedExpression h he).lift (fun fuel hread _ => ?_) (by decide)
    rw [Expression.element.eq_3 _ _ (not_renameTokens rfl hstar), hread]

theorem operation_succ (k : Renamed ρ fuel) {level : ℕ} (h : Expression.operation (fuel + 1) level ts = some (e, rest))
    (he : e.isSimple = true) : Reads ρ 4 (Expression.operation · level) ts e rest := by
  rw [Expression.operation.eq_def] at h
  dsimp only at h
  split at h
  · split_ifs at h
    split at h
    · obtain ⟨rfl, -⟩ := k.operationTail h he
      cases he
    · cases h
  · rename_i hnot
    split at h
    · rename_i hfactor
      obtain ⟨rfl, rfl, htail⟩ := k.operationTail h he
      refine (k.factor hfactor he).lift (fun fuel hread hfuel => ?_) (by decide)
      rw [Expression.operation.eq_3 _ _ _ (not_renameTokens rfl hnot), hread]
      exact htail fuel hfuel
    · cases h

theorem operationTail_succ (k : Renamed ρ fuel) {level : ℕ} {left : Expr}
    (h : Expression.operationTail (fuel + 1) level left ts = some (e, rest)) (he : e.isSimple = true) :
    left = e ∧ ts = rest ∧ ∀ fuel, 0 < fuel →
      Expression.operationTail fuel level (e.rename ρ) (renameTokens ρ rest) =
        some (e.rename ρ, renameTokens ρ rest) := by
  rw [Expression.operationTail.eq_def] at h
  dsimp only at h
  split at h
  · rename_i o r hoperator
    split_ifs at h with hlevel
    · split at h
      · obtain ⟨rfl, -⟩ := k.operationTail h he
        rw [Kept.isSimple_combine] at he
        cases he
      · cases h
    · cases h
      refine ⟨rfl, rfl, fun fuel hfuel => ?_⟩
      obtain ⟨fuel, rfl⟩ : ∃ n, fuel = n + 1 := ⟨fuel - 1, by omega⟩
      rw [Expression.operationTail.eq_2, operator?_rename, hoperator, Option.map_some]
      dsimp only
      rw [if_neg hlevel]
  · rename_i hoperator
    cases h
    refine ⟨rfl, rfl, fun fuel hfuel => ?_⟩
    obtain ⟨fuel, rfl⟩ : ∃ n, fuel = n + 1 := ⟨fuel - 1, by omega⟩
    rw [Expression.operationTail.eq_2, operator?_rename, hoperator, Option.map_none]

/-- A token that is no name before what is read. -/
theorem reads_cons {cost : ℕ} {read : ℕ → List Token → Option (Expr × List Token)} {s : String} {e e' : Expr}
    (hread : Reads ρ cost read ts e rest) (hnames : e'.names = e.names)
    (hstep : ∀ fuel, read fuel (renameTokens ρ ts) = some (e.rename ρ, renameTokens ρ rest) →
      read (fuel + 1) (.op s :: renameTokens ρ ts) = some (e'.rename ρ, renameTokens ρ rest)) :
    Reads ρ cost read (.op s :: ts) e' rest := by
  obtain ⟨used, rfl, hused, hread⟩ := hread
  refine ⟨.op s :: used, rfl, (nameTokens_cons rfl used).trans (hused.trans hnames.symm), fun fuel hfuel => ?_⟩
  rw [List.length_cons] at hfuel
  obtain ⟨fuel, rfl⟩ : ∃ n, fuel = n + 1 := ⟨fuel - 1, by omega⟩
  exact hstep fuel (hread fuel (by omega))

theorem signed_succ (k : Renamed ρ fuel) {negative : Bool} {s : String}
    (h : (Expression.factor fuel ts).map (fun (e, after) => (Expr.signed negative e, after)) = some (e, rest))
    (he : e.isSimple = true)
    (hfactor : ∀ fuel ts, Expression.factor (fuel + 1) (.op s :: ts) =
      (Expression.factor fuel ts).map fun (e, after) => (Expr.signed negative e, after)) :
    Reads ρ 3 Expression.factor (.op s :: ts) e rest := by
  obtain ⟨⟨e', after⟩, hread, hpair⟩ := Option.map_eq_some_iff.mp h
  cases hpair
  refine reads_cons (k.factor hread he) rfl fun fuel hread => ?_
  rw [hfactor, hread]
  rfl

theorem factor_succ (k : Renamed ρ fuel) (h : Expression.factor (fuel + 1) ts = some (e, rest))
    (he : e.isSimple = true) : Reads ρ 3 Expression.factor ts e rest := by
  rw [Expression.factor.eq_def] at h
  dsimp only at h
  split at h
  · exact k.signed_succ h he Expression.factor.eq_2
  · exact k.signed_succ h he Expression.factor.eq_3
  · exact absurd he (not_isSimple_of_map h fun _ => rfl)
  · rename_i hminus hplus htilde
    split at h
    · exact absurd he (not_isSimple_of_map h fun _ => rfl)
    · rename_i hpower
      split at h
      · exact absurd he (not_isSimple_of_map h fun _ => rfl)
      · rename_i hawait
        refine (k.primary h he).lift (fun fuel hread _ => ?_) (by decide)
        rw [Expression.factor.eq_6 _ _ (not_renameTokens rfl hminus) (not_renameTokens rfl hplus)
          (not_renameTokens rfl htilde) (not_renameTokens rfl hawait), hread]
        split
        · rename_i heq
          obtain ⟨-, hrest⟩ := Prod.mk.inj (Option.some.inj heq)
          obtain ⟨r, rfl, -⟩ := exists_of_renameTokens rfl hrest
          refine (hpower e r ?_).elim
          split
          · exact absurd rfl (hawait _)
          · exact h
        · rfl

theorem primary_succ (k : Renamed ρ fuel) (h : Expression.primary (fuel + 1) ts = some (e, rest))
    (he : e.isSimple = true) : Reads ρ 2 Expression.primary ts e rest := by
  rw [Expression.primary.eq_def] at h
  dsimp only at h
  split at h
  · rename_i e₀ r hatom
    have hfirst := ((kept fuel).primaryTail h he).1
    obtain ⟨used, rfl, hnames, hread⟩ := k.atom hatom hfirst
    obtain ⟨used', rfl, hnames', hread'⟩ := k.primaryTail h he
    refine ⟨used ++ used', by rw [List.append_assoc], by rw [nameTokens_append, hnames, hnames'], fun fuel hfuel => ?_⟩
    rw [List.length_append] at hfuel
    obtain ⟨fuel, rfl⟩ : ∃ n, fuel = n + 1 := ⟨fuel - 1, by omega⟩
    rw [Expression.primary.eq_2, hread fuel (by omega)]
    exact hread' fuel (by omega)
  · cases h

theorem primaryTail_succ (k : Renamed ρ fuel) {e' : Expr}
    (h : Expression.primaryTail (fuel + 1) e ts = some (e', rest)) (he : e'.isSimple = true) :
    ∃ used, ts = used ++ rest ∧ e.names ++ nameTokens used = e'.names ∧ ∀ fuel, 16 * used.length + 1 ≤ fuel →
      Expression.primaryTail fuel (e.rename ρ) (renameTokens ρ ts) = some (e'.rename ρ, renameTokens ρ rest) := by
  rw [Expression.primaryTail.eq_def] at h
  dsimp only at h
  split at h
  · cases ((kept fuel).primaryTail h he).1
  · cases h
  · split at h
    · rename_i a after harguments
      have hcall := ((kept fuel).primaryTail h he).1
      obtain ⟨hflags, -, hes⟩ := isSimple_call.mp hcall
      obtain ⟨hnamed, hunpacked⟩ := Bool.or_eq_false_iff.mp hflags
      obtain ⟨used, rfl, hnames, hread⟩ := k.arguments harguments hnamed hunpacked hes
      obtain ⟨used', rfl, hnames', hread'⟩ := k.primaryTail h he
      refine ⟨.op "(" :: (used ++ used'), by rw [List.cons_append, List.append_assoc], ?_, fun fuel hfuel => ?_⟩
      · rw [nameTokens_cons rfl, nameTokens_append, ← hnames', Expr.names, ← hnames, List.append_assoc]
        rfl
      · rw [List.length_cons, List.length_append] at hfuel
        obtain ⟨fuel, rfl⟩ : ∃ n, fuel = n + 1 := ⟨fuel - 1, by omega⟩
        have hargs : Expression.arguments fuel {} (renameTokens ρ (used ++ (used' ++ rest))) =
            some (a.rename ρ, renameTokens ρ (used' ++ rest)) := hread fuel (by omega)
        refine (Expression.primaryTail.eq_4 _ _ _).trans ?_
        rw [← renameTokens, hargs]
        exact hread' fuel (by omega)
    · cases h
  · split at h
    · cases ((kept fuel).primaryTail h he).1
    · cases h
  · rename_i hattribute hpoint hopen hindex
    cases h
    refine ⟨[], rfl, List.append_nil _, fun fuel hfuel => ?_⟩
    obtain ⟨fuel, rfl⟩ : ∃ n, fuel = n + 1 := ⟨fuel - 1, by omega⟩
    exact Expression.primaryTail.eq_6 _ _ _ (fun s r => not_renameTokens rfl hpoint (.name s :: r))
      (not_renameTokens rfl hpoint) (not_renameTokens rfl hopen) (not_renameTokens rfl hindex)

theorem textTail_succ (k : Renamed ρ fuel) {ps : List Text.Point} {formatted : Bool}
    (h : Expression.textTail (fuel + 1) ps formatted ts = some (e, rest)) (he : e.isSimple = true) :
    Reads ρ 1 (Expression.textTail · ps formatted) ts e rest := by
  rw [Expression.textTail.eq_def] at h
  dsimp only at h
  split at h
  · rename_i ds r
    obtain ⟨used, rfl, hnames, hread⟩ := k.textTail h he
    refine ⟨.text ds :: used, rfl, (nameTokens_cons rfl used).trans hnames, fun fuel hfuel => ?_⟩
    rw [List.length_cons] at hfuel
    obtain ⟨fuel, rfl⟩ : ∃ n, fuel = n + 1 := ⟨fuel - 1, by omega⟩
    exact (Expression.textTail.eq_2 _ _ _ _ _).trans (hread fuel (by omega))
  · split_ifs at h
    cases ((kept fuel).textTail h he).1
  · cases h
  · rename_i htext hformatted hbytes
    cases h
    cases formatted
    · refine ⟨[], rfl, rfl, fun fuel hfuel => ?_⟩
      obtain ⟨fuel, rfl⟩ : ∃ n, fuel = n + 1 := ⟨fuel - 1, by omega⟩
      exact Expression.textTail.eq_5 _ _ _ _ (fun ds => not_renameTokens rfl (htext ds))
        (fun raw body => not_renameTokens rfl (hformatted raw body)) (not_renameTokens rfl hbytes)
    · cases he

/-- A token that is an expression by itself. -/
theorem reads_single {t : Token} (hnames : nameTokens [t] = e.names)
    (hatom : ∀ fuel ts, Expression.atom (fuel + 1) (t.rename ρ :: ts) = some (e.rename ρ, ts)) :
    Reads ρ 1 Expression.atom (t :: rest) e rest := by
  refine ⟨[t], rfl, hnames, fun fuel hfuel => ?_⟩
  obtain ⟨fuel, rfl⟩ : ∃ n, fuel = n + 1 := ⟨fuel - 1, by omega⟩
  exact hatom fuel (renameTokens ρ rest)

/-- An expression in brackets. -/
theorem bracketed_succ (k : Renamed ρ fuel) {after : List Token} (h : Expression.element fuel ts = some (e, after))
    (he : e.isSimple = true) (hclose : expect ")" after = some rest) (hempty : ∀ r, ts = .op ")" :: r → False)
    (hyield : ∀ r, ts = .keyword "yield" :: r → False) : Reads ρ 1 Expression.atom (.op "(" :: ts) e rest := by
  obtain rfl := expect_eq_some hclose
  obtain ⟨used, rfl, hnames, hread⟩ := k.element h he
  refine ⟨.op "(" :: (used ++ [.op ")"]), by simp, ?_, fun fuel hfuel => ?_⟩
  · rw [nameTokens_cons rfl, nameTokens_append, hnames]
    exact List.append_nil _
  · rw [List.length_cons, List.length_append, List.length_singleton] at hfuel
    obtain ⟨fuel, rfl⟩ : ∃ n, fuel = n + 1 := ⟨fuel - 1, by omega⟩
    have hread := hread fuel (by omega)
    have hclause : startsClause (renameTokens ρ (.op ")" :: rest)) = false := rfl
    have hcomma : startsWith "," (renameTokens ρ (.op ")" :: rest)) = false := rfl
    refine (Expression.atom.eq_15 _ _ (not_renameTokens rfl hempty) (not_renameTokens rfl hyield)).trans ?_
    rw [hread]
    dsimp only
    rw [hclause, if_neg Bool.false_ne_true, hcomma, if_neg Bool.false_ne_true]
    cases e <;> first | rfl | cases he

theorem atom_succ (k : Renamed ρ fuel) (h : Expression.atom (fuel + 1) ts = some (e, rest))
    (he : e.isSimple = true) : Reads ρ 1 Expression.atom ts e rest := by
  rw [Expression.atom.eq_def] at h
  dsimp only at h
  split at h
  · cases h
    exact reads_single rfl fun _ _ => Expression.atom.eq_2 ..
  · cases h
    exact reads_single rfl fun _ _ => Expression.atom.eq_3 ..
  · cases h
    exact reads_single rfl fun _ _ => Expression.atom.eq_4 ..
  · cases h
    exact reads_single rfl fun _ _ => Expression.atom.eq_5 ..
  · cases h
    exact reads_single rfl fun _ _ => Expression.atom.eq_6 ..
  · cases h
    exact reads_single rfl fun _ _ => Expression.atom.eq_7 ..
  · cases h
    cases he
  · cases h
    cases he
  · rename_i cs r
    obtain ⟨used, rfl, hnames, hread⟩ := k.textTail h he
    refine ⟨.text cs :: used, rfl, (nameTokens_cons rfl used).trans hnames, fun fuel hfuel => ?_⟩
    rw [List.length_cons] at hfuel
    obtain ⟨fuel, rfl⟩ : ∃ n, fuel = n + 1 := ⟨fuel - 1, by omega⟩
    exact (Expression.atom.eq_10 _ _ _).trans (hread fuel (by omega))
  · exact absurd he (not_isSimple_bytesTail h)
  · split_ifs at h
    cases ((kept fuel).textTail h he).1
  · cases h
    cases he
  · split at h
    · exact absurd he (not_isSimple_of_map h fun _ => rfl)
    · cases h
  · rename_i hempty hyield
    split at h
    · rename_i helement
      split_ifs at h
      · exact absurd he (not_isSimple_closeClauses h)
      · exact absurd he (not_isSimple_of_map h fun _ => rfl)
      · obtain ⟨after, hclose, hpair⟩ := Option.map_eq_some_iff.mp h
        cases hpair
        exact k.bracketed_succ helement he hclose hempty hyield
    · cases h
  · cases h
    cases he
  · split at h
    · split_ifs at h
      · exact absurd he (not_isSimple_closeClauses h)
      · exact absurd he (not_isSimple_of_map h fun _ => rfl)
    · cases h
  · cases h
    cases he
  · exact absurd he (not_isSimple_of_map h fun _ => rfl)
  · split at h
    · split_ifs at h
      split at h
      · split_ifs at h
        · exact absurd he (not_isSimple_closeClauses h)
        · exact absurd he (not_isSimple_of_map h fun _ => rfl)
      · cases h
    · split_ifs at h
      · exact absurd he (not_isSimple_closeClauses h)
      · exact absurd he (not_isSimple_of_map h fun _ => rfl)
    · cases h
  · cases h

theorem afterArgument (k : Renamed ρ fuel) {a a' : Arguments}
    (h : Expression.afterArgument fuel a ts = some (a', rest)) (hnamed : a'.named = false)
    (hunpacked : a'.unpacked = false) (hes : areSimple a'.positional = true) :
    startsClause (renameTokens ρ ts) = false ∧ ∃ used, ts = used ++ rest ∧
      namesAll a.positional ++ nameTokens used = namesAll a'.positional ∧ ∀ fuel, 16 * used.length ≤ fuel →
        Expression.afterArgument fuel (a.rename ρ) (renameTokens ρ ts) = some (a'.rename ρ, renameTokens ρ rest) := by
  unfold Expression.afterArgument at h
  split at h
  · cases h
    exact ⟨rfl, [.op ")"], rfl, List.append_nil _, fun _ _ => rfl⟩
  · obtain ⟨used, rfl, hnames, hread⟩ := k.arguments h hnamed hunpacked hes
    refine ⟨rfl, .op "," :: used, rfl, hnames, fun fuel hfuel => ?_⟩
    rw [List.length_cons] at hfuel
    exact hread fuel (by omega)
  · cases h

theorem arguments_succ (k : Renamed ρ fuel) {a a' : Arguments}
    (h : Expression.arguments (fuel + 1) a ts = some (a', rest)) (hnamed : a'.named = false)
    (hunpacked : a'.unpacked = false) (hes : areSimple a'.positional = true) :
    ∃ used, ts = used ++ rest ∧ namesAll a.positional ++ nameTokens used = namesAll a'.positional ∧
      ∀ fuel, 16 * used.length + 7 ≤ fuel → Expression.arguments fuel (a.rename ρ) (renameTokens ρ ts) =
        some (a'.rename ρ, renameTokens ρ rest) := by
  rw [Expression.arguments.eq_def] at h
  dsimp only at h
  split at h
  · cases h
    refine ⟨[.op ")"], rfl, List.append_nil _, fun fuel hfuel => ?_⟩
    obtain ⟨fuel, rfl⟩ : ∃ n, fuel = n + 1 := ⟨fuel - 1, by omega⟩
    exact Expression.arguments.eq_2 ..
  · split at h
    · cases ((kept fuel).afterArgument h hnamed hunpacked hes).1.2.1
    · cases h
  · split_ifs at h
    split at h
    · have := ((kept fuel).afterArgument h hnamed hunpacked hes).1.2.2
      rw [areSimple_append] at this
      cases (Bool.and_eq_true_iff.mp this).2
    · cases h
  · split at h
    · cases ((kept fuel).afterArgument h hnamed hunpacked hes).1.1
    · cases h
  · rename_i hclose hunpack hstar hbinds
    split at h
    · cases h
    · rename_i hflags
      split at h
      · rename_i e r hnext
        split at h
        · split at h
          · obtain ⟨⟨e, after⟩, hclauses, hpair⟩ := Option.map_eq_some_iff.mp h
            cases hpair
            rw [areSimple, Bool.and_eq_true_iff] at hes
            exact absurd hes.1 (not_isSimple_closeClauses hclauses)
          · cases h
        · have hall := ((kept fuel).afterArgument h hnamed hunpacked hes).1.2.2
          rw [areSimple_append, Bool.and_eq_true_iff, areSimple, Bool.and_eq_true_iff] at hall
          obtain ⟨used, rfl, hnames, hread⟩ := k.namedExpression hnext hall.2.1
          obtain ⟨hclause, used', rfl, hnames', hread'⟩ := k.afterArgument h hnamed hunpacked hes
          refine ⟨used ++ used', by rw [List.append_assoc], ?_, fun fuel hfuel => ?_⟩
          · rw [nameTokens_append, hnames, ← hnames', namesAll_append, namesAll, namesAll, List.append_nil,
              List.append_assoc]
          · rw [List.length_append] at hfuel
            obtain ⟨fuel, rfl⟩ : ∃ n, fuel = n + 1 := ⟨fuel - 1, by omega⟩
            rw [Expression.arguments.eq_6 _ _ _ (not_renameTokens rfl hclose) (not_renameTokens rfl hunpack)
              (not_renameTokens rfl hstar) (not_renameTokens_name rfl hbinds), hread fuel (by omega)]
            have hflags' : ¬((a.rename ρ).named || (a.rename ρ).unpacked) = true := hflags
            have hafter := hread' fuel (by omega)
            rw [Arguments.rename, renameAll_append] at hafter
            rw [if_neg hflags']
            dsimp only
            rw [hclause, if_neg Bool.false_ne_true]
            exact hafter
      · cases h

end Renamed

/-- **What is read as a simple expression is read so with other names.** -/
theorem renamed (ρ : String → String) (fuel : ℕ) : Renamed ρ fuel := by
  induction fuel with
  | zero =>
    constructor <;> intros <;> simp_all [expression, namedExpression, element, operation, operationTail, factor,
      primary, primaryTail, atom, textTail, arguments]
  | succ fuel k =>
    exact ⟨k.expression_succ, k.namedExpression_succ, k.element_succ, k.operation_succ, k.operationTail_succ,
      k.factor_succ, k.primary_succ, k.primaryTail_succ, k.atom_succ, k.textTail_succ, k.arguments_succ⟩

/-! ## Whole texts -/

variable {cs cs' : List Char}

/-- The token is a line end. -/
def Token.isNewline (t : Token) : Bool := t matches .newline

theorem isNewline_iff {t : Token} : t.isNewline = true ↔ t = .newline := by
  cases t <;> simp [Token.isNewline]

theorem parse_eq (cs : List Char) : parse cs = (lex cs).bind fun ts =>
    match expressions (16 * (cs.length + 4)) ((ts.dropWhile Token.isNewline).length + 1)
      (ts.dropWhile Token.isNewline) with
    | some (es, isTuple, rest) =>
      if rest.all Token.isNewline then
        match es, isTuple with
        | [e], false => some e
        | es, _ => some (.tuple es)
      else none
    | none => none := rfl

/-- A text is a simple expression if its tokens are, between line ends. -/
theorem parse_eq_some_iff (he : e.isSimple = true) : parse cs = some e ↔
    ∃ lines ts rest, lex cs = some (lines ++ ts) ∧ (∀ t ∈ lines, t = .newline) ∧ .newline ∉ ts.head? ∧
      expression (16 * (cs.length + 4)) ts = some (e, rest) ∧ ∀ t ∈ rest, t = .newline := by
  constructor
  · intro h
    rw [parse_eq, Option.bind_eq_some_iff] at h
    obtain ⟨ts, hlex, h⟩ := h
    split at h
    · rename_i es isTuple rest hexpressions
      split at h
      · rename_i hnewlines
        split at h
        · cases h
          obtain ⟨e', hsingle, hexpression⟩ := expressions_eq_some hexpressions
          cases hsingle
          refine ⟨ts.takeWhile Token.isNewline, _, rest, ?_, fun t ht => ?_, fun hhead => ?_, hexpression,
            fun t ht => isNewline_iff.mp (List.all_eq_true.mp hnewlines t ht)⟩
          · rw [hlex, List.takeWhile_append_dropWhile]
          · exact isNewline_iff.mp (List.all_eq_true.mp List.all_takeWhile t ht)
          · have hstop := List.head?_dropWhile_not Token.isNewline ts
            rw [Option.mem_def.mp hhead] at hstop
            cases hstop
        · cases h
          cases he
      · cases h
    · cases h
  · rintro ⟨lines, ts, rest, hlex, hlines, hhead, hexpression, hrest⟩
    have hdrop : (lines ++ ts).dropWhile Token.isNewline = ts := by
      rw [List.dropWhile_append_of_pos fun t ht => isNewline_iff.mpr (hlines t ht)]
      obtain _ | ⟨t, ts⟩ := ts
      · rfl
      · refine List.dropWhile_cons_of_neg fun ht => hhead ?_
        rw [isNewline_iff.mp ht]
        rfl
    have hexpressions : expressions (16 * (cs.length + 4)) (ts.length + 1) ts = some ([e], false, rest) := by
      rw [expressions, hexpression]
      obtain _ | ⟨t, rest⟩ := rest
      · rfl
      · rw [hrest t List.mem_cons_self]
    have hall : rest.all Token.isNewline = true :=
      List.all_eq_true.mpr fun t ht => isNewline_iff.mpr (hrest t ht)
    rw [parse_eq, hlex, Option.bind_some, hdrop, hexpressions]
    dsimp only
    rw [if_pos hall]

mutual

theorem isSimple_rename {e : Expr} (he : e.isSimple = true) : (e.rename ρ).isSimple = true := by
  cases e with
  | name | scalar => rfl
  | signed negative e => exact isSimple_rename (e := e) he
  | call f es named =>
    obtain ⟨rfl, hf, hes⟩ := isSimple_call.mp he
    exact isSimple_call.mpr ⟨rfl, isSimple_rename hf, areSimple_rename hes⟩
  | _ => cases he
termination_by structural e

theorem areSimple_rename {es : List Expr} (hes : areSimple es = true) : areSimple (renameAll ρ es) = true := by
  cases es with
  | nil => rfl
  | cons e es =>
    obtain ⟨he, hes⟩ := Bool.and_eq_true_iff.mp hes
    exact Bool.and_eq_true_iff.mpr ⟨isSimple_rename he, areSimple_rename hes⟩
termination_by structural es

end

theorem renameTokens_of_newlines {lines : List Token} (h : ∀ t ∈ lines, t = .newline) :
    renameTokens ρ lines = lines := by
  refine renameTokens_eq_self fun s hs => ?_
  cases h _ hs

/-- **A text whose tokens have other names is parsed as the expression with these names.** -/
theorem parse_rename (h : parse cs = some e) (he : e.isSimple = true) (hlex : lex cs = some ts)
    (hlex' : lex cs' = some (renameTokens ρ ts)) : parse cs' = some (e.rename ρ) := by
  have hlen := length_lex_le hlex'
  rw [renameTokens, List.length_map] at hlen
  obtain ⟨lines, ts, rest, hlex₀, hlines, hhead, hexpression, hrest⟩ := (parse_eq_some_iff he).mp h
  cases hlex.symm.trans hlex₀
  obtain ⟨used, rfl, -, hread⟩ := (renamed ρ _).expression hexpression he
  refine (parse_eq_some_iff (isSimple_rename he)).mpr
    ⟨lines, renameTokens ρ (used ++ rest), rest, ?_, hlines, fun hmem => ?_, ?_, hrest⟩
  · rw [hlex', renameTokens, List.map_append]
    exact congrArg some (congrArg (· ++ _) (renameTokens_of_newlines hlines))
  · obtain ⟨r, hr⟩ := List.head?_eq_some_iff.mp hmem
    obtain ⟨r', hts, -⟩ := exists_of_renameTokens rfl hr
    exact hhead (by rw [hts]; rfl)
  · rw [List.length_append, List.length_append] at hlen
    rw [hread _ (by omega), renameTokens_of_newlines hrest]

/-- **The names in a simple expression are those among the tokens of its text.** -/
theorem names_of_parse (h : parse cs = some e) (he : e.isSimple = true) (hlex : lex cs = some ts) :
    nameTokens ts = e.names := by
  obtain ⟨lines, ts, rest, hlex₀, hlines, -, hexpression, hrest⟩ := (parse_eq_some_iff he).mp h
  cases hlex.symm.trans hlex₀
  obtain ⟨used, rfl, hnames, -⟩ := (renamed id _).expression hexpression he
  have hnone {lines : List Token} (h : ∀ t ∈ lines, t = .newline) : nameTokens lines = [] := by
    rw [nameTokens, List.filterMap_eq_nil_iff]
    intro t ht
    rw [h t ht]
    rfl
  rw [nameTokens_append, nameTokens_append, hnone hlines, hnone hrest, hnames, List.nil_append, List.append_nil]

end Gabarit.Expression
