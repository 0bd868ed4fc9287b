import Gabarit.Text.Span
import Gabarit.Text.CaseTable

/-!
# Case conversion

* `upper`, `lower`, `title`, `capitalize`: case conversion of a text, with mappings to several
  characters and the final form of the letter sigma.
-/

namespace Gabarit.Text

/-- A run of code points, each `step` after the last, with the distance to the converted form. -/
structure Shift where
  span : Span
  step : Nat
  up : Bool
  distance : Nat

/-- Reads `61-7a:-20` or `101-12f/2:-1`. -/
def Shift.ofText (s : String) : Shift :=
  match s.splitOn ":" with
  | run :: dist :: _ =>
    let ends := run.splitOn "/"
    let digits := dist.toList
    ⟨Span.ofText (ends.headD ""), ends.length, digits.head? != some '-',
      hexValue (digits.filter (· != '-'))⟩
  | _ => ⟨⟨1, 0⟩, 1, true, 0⟩

/-- Reads `df:53.53`: a code point and the characters it is converted to. -/
def specialOfText (s : String) : Nat × List Char :=
  match s.splitOn ":" with
  | c :: out :: _ => (hexValue c.toList, (out.splitOn ".").map fun h => Char.ofNat (hexValue h.toList))
  | _ => (0, [])

/-- A case mapping: the runs with one-character forms, and the characters with longer ones. -/
structure CaseMap where
  shifts : List Shift
  specials : List (Nat × List Char)

/-- Reads the two tables of a mapping. -/
def CaseMap.ofTables (simple special : String) : CaseMap :=
  ⟨(entries " " simple).map Shift.ofText, (entries " " special).map specialOfText⟩

/-- The converted form of a character by a run, if the run holds it. -/
def Shift.shifted? (s : Shift) (c : Char) : Option Char :=
  let n := c.toNat
  if s.span.first ≤ n ∧ n ≤ s.span.last ∧ (n - s.span.first) % s.step = 0 then
    some (Char.ofNat (if s.up then n + s.distance else n - s.distance))
  else none

/-- The converted form of a character. -/
def CaseMap.apply (m : CaseMap) (c : Char) : List Char :=
  match m.specials.lookup c.toNat with
  | some out => out
  | none => [(m.shifts.findSome? (·.shifted? c)).getD c]

/-- The mapping to upper case. -/
def upperMap : CaseMap := .ofTables simpleUpper specialUpper

/-- The mapping to lower case. -/
def lowerMap : CaseMap := .ofTables simpleLower specialLower

/-- The mapping to title case, for the first letter of a word. -/
def titleMap : CaseMap := .ofTables simpleTitle specialTitle

/-- The runs of `cased`. -/
def casedSpans : List Span := spans cased

/-- The runs of `caseIgnorable`. -/
def caseIgnorableSpans : List Span := spans caseIgnorable

/-- The upper-case form of a character. -/
def upperChar (c : Char) : List Char :=
  if c.toNat < 128 then [if 97 ≤ c.toNat ∧ c.toNat ≤ 122 then Char.ofNat (c.toNat - 32) else c]
  else upperMap.apply c

/-- The lower-case form of a character, whatever stands around it. -/
def lowerChar (c : Char) : List Char :=
  if c.toNat < 128 then [if 65 ≤ c.toNat ∧ c.toNat ≤ 90 then Char.ofNat (c.toNat + 32) else c]
  else lowerMap.apply c

/-- A letter that has a case. -/
def isCased (c : Char) : Bool := inSpans c casedSpans

/-- The first character that counts, of the text before a sigma (read backwards) or after it, has a
case. -/
def casedNeighbour (cs : List Char) : Bool :=
  ((cs.find? fun c => !inSpans c caseIgnorableSpans).map isCased).getD false

/-- The lower-case form of `c`, where `before` is the text before it, read backwards, and `after` the
text after it: a capital sigma that ends a word takes its final form. -/
def lowerIn (before : List Char) (c : Char) (after : List Char) : List Char :=
  if c = 'Σ' then
    [if casedNeighbour before && !casedNeighbour after then 'ς' else 'σ']
  else lowerChar c

/-- Lower-case conversion, with the text already passed, read backwards. -/
def lowerFrom (before : List Char) : List Char → List Char
  | [] => []
  | c :: rest => lowerIn before c rest ++ lowerFrom (c :: before) rest

/-- Title-case conversion, with the text already passed, read backwards: a letter after a cased one is
put in lower case, any other in title case. -/
def titleFrom (before : List Char) : List Char → List Char
  | [] => []
  | c :: rest =>
    (if (before.head?.map isCased).getD false then lowerIn before c rest else titleMap.apply c) ++
      titleFrom (c :: before) rest

/-- The text in upper case. -/
def upper (s : String) : String := String.ofList (s.toList.flatMap upperChar)

/-- The text in lower case. -/
def lower (s : String) : String := String.ofList (lowerFrom [] s.toList)

/-- The text with each word in title case. -/
def title (s : String) : String := String.ofList (titleFrom [] s.toList)

/-- The text with its first character in title case and the others in lower case. -/
def capitalize (s : String) : String :=
  match s.toList with
  | [] => ""
  | c :: rest => String.ofList (titleMap.apply c ++ lowerFrom [c] rest)

end Gabarit.Text
