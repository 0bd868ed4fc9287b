/-!
# Formatted texts

A text can hold expressions between braces, with conversions and patterns. Here it is divided into its
pieces; the expressions themselves are read elsewhere.

* `formattedEnd`: where an expression ends;
* `literalRun`: the characters before the next brace;
* `afterExpression`: what follows the signs after an expression.
-/

namespace Gabarit.Expression

/-- A piece of a formatted text: where an expression ends. Quotes and brackets hide what is in them; a
backslash or a comment cannot stand in an expression. The brackets are those still open, `quote` is
the quote around the place and whether it is a triple one. -/
def formattedEnd (pending : List Char) (quote : Option (Char × Bool)) :
    List Char → Option (List Char × List Char)
  | [] => none
  | c :: rest =>
    let go (pending' : List Char) (quote' : Option (Char × Bool)) : Option (List Char × List Char) :=
      (formattedEnd pending' quote' rest).map fun (e, after) => (c :: e, after)
    if c = '\\' then none
    else match quote with
    | some (q, triple) =>
      -- a triple quote is left at its third character
      if c = q ∧ (!triple ∨ rest.take 2 = [q, q]) then
        go pending (if triple then some (q, false) else none)
      else go pending quote
    | none =>
      if c = '\'' ∨ c = '"' then go pending (some (c, false))
      else if c = '#' then none
      else if c = '(' then go (')' :: pending) none
      else if c = '[' then go (']' :: pending) none
      else if c = '\x7b' then go ('\x7d' :: pending) none
      else match pending with
      | b :: more =>
        if c = b then go more none
        else if c = ')' ∨ c = ']' ∨ c = '\x7d' then none
        else go pending none
      | [] =>
        let doubled := (c = '!' ∨ c = '=' ∨ c = '<' ∨ c = '>') ∧ rest.head? = some '='
        if doubled then
          match rest with
          | d :: more => (formattedEnd [] none more).map fun (e, after) => (c :: d :: e, after)
          | [] => none
        else if c = '!' ∨ c = ':' ∨ c = '\x7d' ∨ c = '=' then some ([], c :: rest)
        else if c = ')' ∨ c = ']' then none
        else go [] none

/-- The characters of a formatted text before the next brace. A brace after `\N` belongs to the name of
a character. -/
def literalRun (raw : Bool) : List Char → List Char
  | [] => []
  | '\\' :: 'N' :: '\x7b' :: rest =>
    if raw then ['\\', 'N'] else '\\' :: 'N' :: '\x7b' :: nameRun rest
  | '\\' :: c :: rest =>
    if raw ∨ c = '\x7b' ∨ c = '\x7d' then '\\' :: literalRun raw (c :: rest)
    else '\\' :: c :: literalRun raw rest
  | c :: rest => if c = '\x7b' ∨ c = '\x7d' then [] else c :: literalRun raw rest
where
  /-- The name of a character, and what follows it. -/
  nameRun : List Char → List Char
    | [] => []
    | c :: rest => if c = '\x7d' then c :: literalRun raw rest else c :: nameRun rest

/-- The characters after `=` and blanks, and after a conversion, where both are optional. -/
def afterExpression (cs : List Char) : Option (List Char) :=
  let isSpace (c : Char) : Bool := c = ' ' || c = '\t' || c = '\n' || c = '\x0c' || c = '\x0b'
  let cs := match cs with
    | '=' :: rest => rest.dropWhile isSpace
    | cs => cs
  match cs with
  | '!' :: c :: rest => if c = 's' ∨ c = 'r' ∨ c = 'a' then some rest else none
  | '!' :: [] => none
  | cs => some cs

end Gabarit.Expression
