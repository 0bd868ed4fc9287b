import Gabarit.Expression.Formatted
import Gabarit.Expression.Operator
import Gabarit.Text.Basic

/-!
# Reading expressions

A parser by precedence over the tokens of a tag. It accepts the whole language of expressions, so that
what is well formed but no filter call is told from what is not well formed.

* `Parameters`, `Arguments`: what has been read of the parameters of a lambda and of a call;
* `expression` and the functions beside it: one for each form;
* `parse`: the expression that a text is.

Each function is given its fuel and the tokens, and tells the tokens that are left.
-/

namespace Gabarit.Expression

/-- The tokens after an operator that has to stand at their start. -/
def expect (s : String) : List Token → Option (List Token)
  | .op t :: rest => if t = s then some rest else none
  | _ => none

/-- The operator stands at the start of the tokens. -/
def startsWith (s : String) (ts : List Token) : Bool := (expect s ts).isSome

/-- A comprehension starts here. -/
def startsClause : List Token → Bool
  | .keyword "for" :: _ => true
  | .keyword "async" :: .keyword "for" :: _ => true
  | _ => false

/-- Which parameters of a lambda have been read. -/
structure Parameters where
  count : Nat := 0
  defaulted : Bool := false
  slash : Bool := false
  /-- Zero at first, one after a bare star, two once named parameters may stand, three after the last. -/
  phase : Nat := 0

/-- The parameters after one with or without a default, if it may stand there. -/
def Parameters.add? (p : Parameters) (hasDefault : Bool) : Option Parameters :=
  if p.phase = 0 then
    if p.defaulted && !hasDefault then none
    else some { p with count := p.count + 1, defaulted := p.defaulted || hasDefault }
  else if p.phase = 3 then none
  else some { p with phase := 2 }

/-- What has been read of the arguments of a call. -/
structure Arguments where
  positional : List Expr := []
  named : Bool := false
  unpacked : Bool := false

mutual

/-- A lambda, a condition or an operation. -/
def expression : Nat → List Token → Option (Expr × List Token)
  | 0, _ => none
  | fuel + 1, ts =>
    match ts with
    | .keyword "lambda" :: rest =>
      match parameters fuel {} rest with
      | some rest => (expression fuel rest).map fun (_, after) => (Expr.other, after)
      | none => none
    | ts =>
      match operation fuel 0 ts with
      | some (_, .keyword "if" :: rest) =>
        match operation fuel 0 rest with
        | some (_, .keyword "else" :: rest) =>
          (expression fuel rest).map fun (_, after) => (Expr.other, after)
        | _ => none
      | r => r

/-- An expression, or one that is bound to a name. -/
def namedExpression : Nat → List Token → Option (Expr × List Token)
  | 0, _ => none
  | fuel + 1, ts =>
    match ts with
    | .name _ :: .op ":=" :: rest =>
      (expression fuel rest).map fun (_, after) => (.assignment, after)
    | ts => expression fuel ts

/-- An element of a display: an expression, or one that is unpacked. -/
def element : Nat → List Token → Option (Expr × List Token)
  | 0, _ => none
  | fuel + 1, ts =>
    match ts with
    | .op "*" :: rest => (operation fuel bitLevel rest).map fun (e, after) => (.starred e, after)
    | ts => namedExpression fuel ts

/-- Operators that bind at least as tightly as `level`. -/
def operation : Nat → Nat → List Token → Option (Expr × List Token)
  | 0, _, _ => none
  | fuel + 1, level, ts =>
    match ts with
    | .keyword "not" :: rest =>
      if level ≤ notLevel then
        match operation fuel notLevel rest with
        | some (_, after) => operationTail fuel level .other after
        | none => none
      else none
    | ts =>
      match factor fuel ts with
      | some (left, rest) => operationTail fuel level left rest
      | none => none

/-- The operators after a left operand. -/
def operationTail : Nat → Nat → Expr → List Token → Option (Expr × List Token)
  | 0, _, _, _ => none
  | fuel + 1, level, left, ts =>
    match operator? ts with
    | some (o, rest) =>
      if level ≤ o.level then
        match operation fuel (o.level + 1) rest with
        | some (right, after) => operationTail fuel level (o.combine left right) after
        | none => none
      else some (left, ts)
    | none => some (left, ts)

/-- An operand with its signs and powers. -/
def factor : Nat → List Token → Option (Expr × List Token)
  | 0, _ => none
  | fuel + 1, ts =>
    match ts with
    | .op "-" :: rest => (factor fuel rest).map fun (e, after) => (.signed true e, after)
    | .op "+" :: rest => (factor fuel rest).map fun (e, after) => (.signed false e, after)
    | .op "~" :: rest => (factor fuel rest).map fun (_, after) => (Expr.other, after)
    | ts =>
      let base : Option (Expr × List Token) := match ts with
        | .keyword "await" :: rest => (primary fuel rest).map fun (_, after) => (Expr.other, after)
        | ts => primary fuel ts
      match base with
      | some (_, .op "**" :: rest) => (factor fuel rest).map fun (_, after) => (Expr.other, after)
      | r => r

/-- An atom with its calls, attributes and elements. -/
def primary : Nat → List Token → Option (Expr × List Token)
  | 0, _ => none
  | fuel + 1, ts =>
    match atom fuel ts with
    | some (e, rest) => primaryTail fuel e rest
    | none => none

/-- The calls, attributes and elements after an expression. -/
def primaryTail : Nat → Expr → List Token → Option (Expr × List Token)
  | 0, _, _ => none
  | fuel + 1, e, ts =>
    match ts with
    | .op "." :: .name _ :: rest => primaryTail fuel .access rest
    | .op "." :: _ => none
    | .op "(" :: rest =>
      match arguments fuel {} rest with
      | some (a, after) => primaryTail fuel (.call e a.positional (a.named || a.unpacked)) after
      | none => none
    | .op "[" :: rest =>
      match slices fuel rest with
      | some after => primaryTail fuel .access after
      | none => none
    | ts => some (e, ts)

/-- A name, a literal or something in brackets. -/
def atom : Nat → List Token → Option (Expr × List Token)
  | 0, _ => none
  | fuel + 1, ts =>
    match ts with
    | .name s :: rest => some (.name s, rest)
    | .keyword "None" :: rest => some (.scalar .null, rest)
    | .keyword "True" :: rest => some (.scalar (.bool true), rest)
    | .keyword "False" :: rest => some (.scalar (.bool false), rest)
    | .int n :: rest => some (.scalar (.int n), rest)
    | .float x :: rest => some (.scalar (.float x), rest)
    | .imaginary :: rest => some (.imaginary, rest)
    | .op "..." :: rest => some (.constant, rest)
    | .text ps :: rest => textTail fuel ps false rest
    | .bytes :: rest => bytesTail fuel rest
    | .formatted raw body :: rest =>
      if formattedText fuel 0 raw body = some [] then textTail fuel [] true rest else none
    | .op "(" :: .op ")" :: rest => some (.tuple [], rest)
    | .op "(" :: .keyword "yield" :: rest =>
      match yielded fuel rest with
      | some after => (expect ")" after).map fun after => (.other, after)
      | none => none
    | .op "(" :: rest =>
      match element fuel rest with
      | some (e, after) =>
        if startsClause after then
          if e.isPlain || e matches .assignment then closeClauses fuel ")" after else none
        else if startsWith "," after then
          (elements fuel ")" after).map fun (es, after) => (.tuple (e :: es), after)
        else if e matches .starred _ then none
        else (expect ")" after).map fun after => (e, after)
      | none => none
    | .op "[" :: .op "]" :: rest => some (.list [], rest)
    | .op "[" :: rest =>
      match element fuel rest with
      | some (e, after) =>
        if startsClause after then
          if e matches .starred _ then none else closeClauses fuel "]" after
        else (elements fuel "]" after).map fun (es, after) => (.list (e :: es), after)
      | none => none
    | .op "\x7b" :: .op "\x7d" :: rest => some (.dict [], rest)
    | .op "\x7b" :: .op "**" :: rest => (entries fuel (.op "**" :: rest)).map fun (es, after) =>
        (.dict es, after)
    | .op "\x7b" :: rest =>
      match element fuel rest with
      | some (e, .op ":" :: after) =>
        if e.isPlain then
          match expression fuel after with
          | some (_, after') =>
            if startsClause after' then closeClauses fuel "\x7d" after'
            else (entries fuel rest).map fun (es, after) => (.dict es, after)
          | none => none
        else none
      | some (e, after) =>
        if startsClause after then
          if e matches .starred _ then none else closeClauses fuel "\x7d" after
        else (elements fuel "\x7d" after).map fun (es, after) => (.set (e :: es), after)
      | none => none
    | _ => none

/-- The texts after a text, which are one with it; one with expressions makes the whole no literal. -/
def textTail : Nat → List Text.Point → Bool → List Token → Option (Expr × List Token)
  | 0, _, _, _ => none
  | fuel + 1, ps, formatted, ts =>
    match ts with
    | .text more :: rest => textTail fuel (ps ++ more) formatted rest
    | .formatted raw body :: rest =>
      if formattedText fuel 0 raw body = some [] then textTail fuel ps true rest else none
    | .bytes :: _ => none
    | ts => some (if formatted then .other else .scalar (.ofPoints ps), ts)

/-- The bytes after bytes. -/
def bytesTail : Nat → List Token → Option (Expr × List Token)
  | 0, _ => none
  | fuel + 1, ts =>
    match ts with
    | .bytes :: rest => bytesTail fuel rest
    | .text _ :: _ => none
    | .formatted .. :: _ => none
    | ts => some (.constant, ts)

/-- Reads a text with expressions in it, up to its end, or in a pattern up to the brace that closes it.
The depth is that of patterns in patterns. -/
def formattedText : Nat → Nat → Bool → List Char → Option (List Char)
  | 0, _, _, _ => none
  | fuel + 1, depth, raw, cs =>
    let literal := literalRun raw cs
    -- a backslash before a brace stands for itself
    let body := if literal.getLast? = some '\\' ∧ (Text.unescape literal).isNone then literal.dropLast
      else literal
    if !raw && (Text.unescape body).isNone then none
    else
      match cs.drop literal.length with
      | [] => some []
      | b :: rest =>
        if depth = 0 ∧ rest.head? = some b then formattedText fuel depth raw (rest.drop 1)
        else if b = '\x7d' then if depth = 0 then none else some (b :: rest)
        else match formattedField fuel depth raw rest with
        | some after => formattedText fuel depth raw after
        | none => none

/-- Reads an expression in a text, with its conversion and pattern, up to its closing brace. -/
def formattedField : Nat → Nat → Bool → List Char → Option (List Char)
  | 0, _, _, _ => none
  | fuel + 1, depth, raw, cs =>
    if depth ≥ 2 then none
    else match formattedEnd [] none cs with
    | none => none
    | some (e, after) =>
      match lex (['('] ++ e ++ [')']) with
      | none => none
      | some ts =>
        if e.all Text.isBlank then none
        else match expression fuel ts with
        | some (_, []) =>
          match afterExpression after with
          | some ('\x7d' :: rest) => some rest
          | some (':' :: rest) =>
            match formattedText fuel (depth + 1) raw rest with
            | some ('\x7d' :: r) => some r
            | _ => none
          | _ => none
        | _ => none

/-- Elements after the first one of a display, up to its closing bracket. -/
def elements : Nat → String → List Token → Option (List Expr × List Token)
  | 0, _, _ => none
  | fuel + 1, close, ts =>
    match expect close ts with
    | some after => some ([], after)
    | none =>
      match expect "," ts with
      | none => none
      | some rest =>
        match expect close rest with
        | some after => some ([], after)
        | none =>
          match element fuel rest with
          | some (e, rest) => (elements fuel close rest).map fun (es, after) => (e :: es, after)
          | none => none

/-- The entries of a mapping, up to its closing bracket. -/
def entries : Nat → List Token → Option (List (Expr × Expr) × List Token)
  | 0, _ => none
  | fuel + 1, ts =>
    let entry : Option ((Expr × Expr) × List Token) := match ts with
      | .op "**" :: rest => (operation fuel bitLevel rest).map fun (e, after) => ((Expr.other, e), after)
      | ts =>
        match expression fuel ts with
        | some (k, .op ":" :: rest) => (expression fuel rest).map fun (v, after) => ((k, v), after)
        | _ => none
    match entry with
    | some (e, .op "," :: .op "\x7d" :: rest) => some ([e], rest)
    | some (e, .op "," :: rest) => (entries fuel rest).map fun (es, after) => (e :: es, after)
    | some (e, .op "\x7d" :: rest) => some ([e], rest)
    | _ => none

/-- The clauses of a comprehension, and its closing bracket. -/
def closeClauses : Nat → String → List Token → Option (Expr × List Token)
  | 0, _, _ => none
  | fuel + 1, close, ts =>
    match clauses fuel ts with
    | some rest => (expect close rest).map fun after => (.other, after)
    | none => none

/-- The clauses of a comprehension. -/
def clauses : Nat → List Token → Option (List Token)
  | 0, _ => none
  | fuel + 1, ts =>
    let body : Option (List Token) := match ts with
      | .keyword "async" :: .keyword "for" :: rest => some rest
      | .keyword "for" :: rest => some rest
      | _ => none
    match body.bind (targets fuel) with
    | none => none
    | some rest =>
      match operation fuel 0 rest with
      | none => none
      | some (_, rest) =>
        match conditions fuel rest with
        | none => none
        | some rest => if startsClause rest then clauses fuel rest else some rest

/-- What a clause binds, up to its `in`. -/
def targets : Nat → List Token → Option (List Token)
  | 0, _ => none
  | fuel + 1, ts =>
    let target : Option (Expr × List Token) := match ts with
      | .op "*" :: rest => operation fuel bitLevel rest
      | ts => operation fuel bitLevel ts
    match target with
    | none => none
    | some (e, rest) =>
      if !e.isTarget then none
      else match rest with
      | .keyword "in" :: after => some after
      | .op "," :: .keyword "in" :: after => some after
      | .op "," :: after => targets fuel after
      | _ => none

/-- The conditions of a clause. -/
def conditions : Nat → List Token → Option (List Token)
  | 0, _ => none
  | fuel + 1, ts =>
    match ts with
    | .keyword "if" :: rest =>
      match operation fuel 0 rest with
      | some (_, rest) => conditions fuel rest
      | none => none
    | ts => some ts

/-- The arguments of a call, up to its closing bracket. Plain ones come before named ones, and nothing
is unpacked after named ones were. -/
def arguments : Nat → Arguments → List Token → Option (Arguments × List Token)
  | 0, _, _ => none
  | fuel + 1, a, ts =>
    let next (a : Arguments) (rest : List Token) : Option (Arguments × List Token) :=
      match rest with
      | .op ")" :: after => some (a, after)
      | .op "," :: after => arguments fuel a after
      | _ => none
    match ts with
    | .op ")" :: after => some (a, after)
    | .op "**" :: rest =>
      match expression fuel rest with
      | some (_, rest) => next { a with unpacked := true } rest
      | none => none
    | .op "*" :: rest =>
      if a.unpacked then none
      else match expression fuel rest with
      | some (e, rest) => next { a with positional := a.positional ++ [.starred e] } rest
      | none => none
    | .name _ :: .op "=" :: rest =>
      match expression fuel rest with
      | some (_, rest) => next { a with named := true } rest
      | none => none
    | ts =>
      if a.named || a.unpacked then none
      else match namedExpression fuel ts with
      | some (e, rest) =>
        if startsClause rest then
          if a.positional.isEmpty then
            (closeClauses fuel ")" rest).map fun (e, after) => ({ a with positional := [e] }, after)
          else none
        else next { a with positional := a.positional ++ [e] } rest
      | none => none

/-- The elements between square brackets after an expression, up to the closing one. -/
def slices : Nat → List Token → Option (List Token)
  | 0, _ => none
  | fuel + 1, ts =>
    let item : Option (List Token) := match ts with
      | .op "*" :: rest => (expression fuel rest).map Prod.snd
      | .op ":" :: rest => bounds fuel rest
      | ts =>
        match namedExpression fuel ts with
        | some (e, .op ":" :: rest) => if e.isPlain then bounds fuel rest else none
        | some (_, rest) => some rest
        | none => none
    match item with
    | some (.op "]" :: after) => some after
    | some (.op "," :: .op "]" :: after) => some after
    | some (.op "," :: after) => slices fuel after
    | _ => none

/-- The bounds of a slice after its first colon. -/
def bounds : Nat → List Token → Option (List Token)
  | 0, _ => none
  | fuel + 1, ts =>
    let ends (ts : List Token) : Bool := startsWith "]" ts || startsWith "," ts
    let bound (ts : List Token) : Option (List Token) :=
      if ends ts || startsWith ":" ts then some ts else (expression fuel ts).map (·.2)
    match bound ts with
    | some (.op ":" :: rest) => if ends rest then some rest else (expression fuel rest).map (·.2)
    | r => r

/-- The parameters of a lambda, up to the colon. -/
def parameters : Nat → Parameters → List Token → Option (List Token)
  | 0, _, _ => none
  | fuel + 1, p, ts =>
    let next (p : Parameters) (rest : List Token) : Option (List Token) :=
      match rest with
      | .op ":" :: after => if p.phase = 1 then none else some after
      | .op "," :: after => parameters fuel p after
      | _ => none
    match ts with
    | .op ":" :: after => if p.phase = 1 then none else some after
    | .op "/" :: rest =>
      if p.phase = 0 ∧ !p.slash ∧ p.count > 0 then next { p with slash := true } rest else none
    | .op "*" :: .name _ :: rest => if p.phase = 0 then next { p with phase := 2 } rest else none
    | .op "*" :: .op "," :: rest =>
      if p.phase = 0 then parameters fuel { p with phase := 1 } rest else none
    | .op "**" :: .name _ :: rest =>
      if p.phase = 0 ∨ p.phase = 2 then next { p with phase := 3 } rest else none
    | .name _ :: .op "=" :: rest =>
      match p.add? true, expression fuel rest with
      | some p, some (_, rest) => next p rest
      | _, _ => none
    | .name _ :: rest =>
      match p.add? false with
      | some p => next p rest
      | none => none
    | _ => none

/-- What a generator yields, up to the closing bracket. -/
def yielded : Nat → List Token → Option (List Token)
  | 0, _ => none
  | fuel + 1, ts =>
    match ts with
    | .keyword "from" :: rest => (expression fuel rest).map (·.2)
    | .op ")" :: _ => some ts
    | ts =>
      let item : Option (Expr × List Token) := match ts with
        | .op "*" :: rest => operation fuel bitLevel rest
        | ts => expression fuel ts
      match item with
      | some (_, .op "," :: rest) => yielded fuel rest
      | some (_, rest) => some rest
      | none => none

end

/-- Expressions divided by commas, which are a tuple. -/
def expressions (fuel : Nat) : Nat → List Token → Option (List Expr × Bool × List Token)
  | 0, _ => none
  | n + 1, ts =>
    match expression fuel ts with
    | some (e, .op "," :: rest) =>
      if rest.all (· matches .newline) then some ([e], true, rest)
      else (expressions fuel n rest).map fun (es, _, after) => (e :: es, true, after)
    | some (e, rest) => some ([e], false, rest)
    | none => none

/-- The expression that a text is. Operators can nest to any depth here: a platform that gives out at some depth is
not described. -/
def parse (cs : List Char) : Option Expr :=
  (lex cs).bind fun ts =>
    let ts := ts.dropWhile (· matches .newline)
    match expressions (16 * (cs.length + 4)) (ts.length + 1) ts with
    | some (es, isTuple, rest) =>
      if rest.all (· matches .newline) then
        match es, isTuple with
        | [e], false => some e
        | es, _ => some (.tuple es)
      else none
    | none => none

end Gabarit.Expression
