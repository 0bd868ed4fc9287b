/-!
# Tables of code points

Character properties are kept as texts of hexadecimal runs, `41-5a aa b5`, in the order of the code
points. Here such a text is read and searched.

* `hexDigit?`, `hexValue`: hexadecimal digits, also used by escapes in quoted text;
* `entries`: the entries of a table, which is a text of several lines;
* `Span`, `spans`: runs of code points and the reading of a table;
* `inSpans`: membership of a character.
-/

namespace Gabarit.Text

/-- The value of a hexadecimal digit of either case. -/
def hexDigit? (c : Char) : Option Nat :=
  let n := c.toNat
  if 48 ≤ n ∧ n ≤ 57 then some (n - 48)
  else if 97 ≤ n ∧ n ≤ 102 then some (n - 87)
  else if 65 ≤ n ∧ n ≤ 70 then some (n - 55)
  else none

/-- The number that hexadecimal digits write; other characters count as zero. -/
def hexValue (cs : List Char) : Nat :=
  cs.foldl (fun v c => 16 * v + (hexDigit? c).getD 0) 0

/-- An inclusive run of code points. -/
structure Span where
  first : Nat
  last : Nat

/-- Reads `41-5a` as a run and `aa` as a run of one. -/
def Span.ofText (s : String) : Span :=
  match s.splitOn "-" with
  | [a] => ⟨hexValue a.toList, hexValue a.toList⟩
  | a :: b :: _ => ⟨hexValue a.toList, hexValue b.toList⟩
  | [] => ⟨1, 0⟩

/-- The entries of a table: `sep` stands between entries of one line, and the lines after the first are
indented by two spaces. -/
def entries (sep table : String) : List String := (table.splitOn "\n  ").flatMap (·.splitOn sep)

/-- Reads a table of runs divided by single spaces. -/
def spans (table : String) : List Span := (entries " " table).map Span.ofText

/-- The character lies in one of the runs, which are in ascending order. -/
def inSpans (c : Char) : List Span → Bool
  | [] => false
  | s :: rest => if c.toNat < s.first then false else c.toNat ≤ s.last || inSpans c rest

end Gabarit.Text
