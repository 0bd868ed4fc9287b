/-!
# Positions in a document

* `isBreak`, `isEnd`, `isGap`: the characters that end a line, a text on a line, or a word;
* `Position`: what is left to be read, with its index, line and column;
* `Position.peek`, `Position.skip`, `Position.span`, `Position.takeBreak`: reading on.

Beyond the last character stand NULs, which a document does not hold.
-/

namespace Gabarit.Yaml

/-- A character that ends a line. -/
def isBreak (c : Char) : Bool :=
  c == '\n' || c == '\r' || c == '\u0085' || c == '\u2028' || c == '\u2029'

/-- The end of the document or of a line. -/
def isEnd (c : Char) : Bool := c == '\x00' || isBreak c

/-- A character that divides words: an end, a space or a tab. -/
def isGap (c : Char) : Bool := isEnd c || c == ' ' || c == '\t'

/-- What is left to be read, and where it starts. -/
structure Position where
  rest : List Char
  index : Nat := 0
  line : Nat := 0
  column : Nat := 0

namespace Position

/-- The character `k` places on. -/
def peek (p : Position) (k : Nat) : Char := (p.rest[k]?).getD '\x00'

/-- The next character. -/
def head (p : Position) : Char := p.rest.headD '\x00'

/-- Passes over a character. A carriage return before a line feed ends no line of its own, and a byte
order mark has no width. -/
def next (p : Position) : Position :=
  match p.rest with
  | [] => p
  | c :: rest =>
    if isBreak c && (c != '\r' || rest.head? != some '\n') then ⟨rest, p.index + 1, p.line + 1, 0⟩
    else ⟨rest, p.index + 1, p.line, if c = '\uFEFF' then p.column else p.column + 1⟩

/-- Passes over characters. -/
def skip : Nat → Position → Position
  | 0, p => p
  | n + 1, p => skip n p.next

/-- The characters of a kind that stand here, and the position after them. -/
def span (kind : Char → Bool) (p : Position) : List Char × Position :=
  let cs := p.rest.takeWhile kind
  (cs, p.skip cs.length)

/-- The position after characters of a kind. -/
def skipWhile (kind : Char → Bool) (p : Position) : Position := (p.span kind).2

/-- The position after spaces. -/
def skipSpaces (p : Position) : Position := p.skipWhile (· == ' ')

/-- The end of a line as it counts in a text, and the position after it. -/
def takeBreak (p : Position) : List Char × Position :=
  match p.rest with
  | '\r' :: '\n' :: _ => (['\n'], p.skip 2)
  | c :: _ =>
    if c == '\r' || c == '\n' || c == '\u0085' then (['\n'], p.next)
    else if isBreak c then ([c], p.next)
    else ([], p)
  | [] => ([], p)

/-- Three characters that divide documents stand here. -/
def atDivider (p : Position) : Bool :=
  ((p.rest.take 3 == ['-', '-', '-']) || (p.rest.take 3 == ['.', '.', '.'])) && isGap (p.peek 3)

/-- The position after a comment, if one starts here. -/
def skipComment (p : Position) : Position :=
  if p.head == '#' then p.skipWhile (!isEnd ·) else p

end Position

end Gabarit.Yaml
