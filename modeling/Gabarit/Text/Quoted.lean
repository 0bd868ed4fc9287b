import Gabarit.Text.Basic
import Gabarit.Text.Printable

/-!
# Quoted text

Text between quotes, with escapes for what cannot stand there.

* `Point`: what a text is made of where surrogates may stand in it;
* `Broken`, `ofPoints`, `points`: texts with surrogates, and texts of both kinds by their code points;
* `quoteFor`: single quotes, unless the text holds single quotes and no double ones;
* `escapeChar`, `quotedPoints`, `quoted`: how a text is written;
* `quotedBytes`: how a sequence of bytes is written.
-/

namespace Gabarit.Text

/-- A code point of a text. Escapes can write surrogates, which are no characters; a text that holds one
has no encoding and is none of the values of a template. -/
inductive Point where
  | char (c : Char)
  /-- The surrogate `n` places after `U+D800`. -/
  | surrogate (n : Fin 0x800)
  deriving DecidableEq

namespace Point

/-- The character of a code point. -/
def char? : Point → Option Char
  | .char c => some c
  | .surrogate _ => none

/-- The number of a code point. -/
def code : Point → Nat
  | .char c => c.toNat
  | .surrogate n => 0xD800 + n

/-- The code point of a number, if it is one. -/
def ofCode? (n : Nat) : Option Point :=
  if n.isValidChar then some (.char (Char.ofNat n))
  else if h : 0xD800 ≤ n ∧ n < 0xE000 then some (.surrogate ⟨n - 0xD800, by omega⟩)
  else none

end Point

/-- The characters of code points without surrogates. -/
def chars? (ps : List Point) : Option (List Char) := ps.mapM Point.char?

/-- A text with a surrogate in it. -/
abbrev Broken := { ps : List Point // chars? ps = none }

/-- The text of code points. -/
def ofPoints (ps : List Point) : String ⊕ Broken :=
  match h : chars? ps with
  | some cs => .inl (String.ofList cs)
  | none => .inr ⟨ps, h⟩

/-- The code points of a text. -/
def points : String ⊕ Broken → List Point
  | .inl s => s.toList.map .char
  | .inr t => t.1

/-- The quote for a text. -/
def quoteFor (single double : Bool) : Char := if single && !double then '"' else '\''

/-- How a character is written between quotes `q`. -/
def escapeChar (q c : Char) : List Char :=
  if c = q ∨ c = '\\' then ['\\', c]
  else if c = '\n' then ['\\', 'n']
  else if c = '\r' then ['\\', 'r']
  else if c = '\t' then ['\\', 't']
  else if isPrintable c then [c]
  else if c.toNat < 0x100 then '\\' :: 'x' :: hexPadded 2 c.toNat
  else if c.toNat < 0x10000 then '\\' :: 'u' :: hexPadded 4 c.toNat
  else '\\' :: 'U' :: hexPadded 8 c.toNat

/-- How a code point is written between quotes `q`. -/
def escapePoint (q : Char) : Point → List Char
  | .char c => escapeChar q c
  | .surrogate n => '\\' :: 'u' :: hexPadded 4 (Point.surrogate n).code

/-- Code points in quotes. -/
def quotedPoints (ps : List Point) : List Char :=
  let q := quoteFor (ps.contains (.char '\'')) (ps.contains (.char '"'))
  q :: (ps.flatMap (escapePoint q) ++ [q])

/-- The text in quotes. -/
def quoted (s : String) : String := String.ofList (quotedPoints (s.toList.map .char))

/-- How a byte is written between quotes `q`. -/
def escapeByte (q : Char) (b : UInt8) : List Char :=
  let c := Char.ofNat b.toNat
  if c = q ∨ c = '\\' then ['\\', c]
  else if c = '\n' then ['\\', 'n']
  else if c = '\r' then ['\\', 'r']
  else if c = '\t' then ['\\', 't']
  else if 32 ≤ b.toNat ∧ b.toNat < 127 then [c]
  else '\\' :: 'x' :: hexPadded 2 b.toNat

/-- Bytes in quotes, after the letter `b`. -/
def quotedBytes (bs : List UInt8) : String :=
  let q := quoteFor (bs.contains 39) (bs.contains 34)
  String.ofList ('b' :: q :: (bs.flatMap (escapeByte q) ++ [q]))

end Gabarit.Text
