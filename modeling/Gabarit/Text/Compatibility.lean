import Gabarit.Text.Basic
import Gabarit.Text.CompatibilityTable

/-!
# Compatibility composition

The normal form in which names are compared: characters are replaced by their compatibility
decompositions, marks are put into their canonical order, and what can be composed is composed again.

* `decompose`, `reorder`, `compose`: the three steps;
* `normalize`: the normal form of a text.
-/

namespace Gabarit.Text

/-- Reads an entry of `decompositions`: a run of code points and what they are replaced by. -/
def decompositionOfText (s : String) : Span × List Nat :=
  match s.splitOn ":" with
  | run :: out :: _ => (Span.ofText run, (out.splitOn ".").map (hexValue ·.toList))
  | _ => (⟨1, 0⟩, [])

/-- The entries of `decompositions`. -/
def decompositionList : List (Span × List Nat) := (entries " " decompositions).map decompositionOfText

/-- The entries of `combiningClasses`. -/
def combiningList : List (Span × Nat) :=
  (entries " " combiningClasses).map fun s =>
    match s.splitOn ":" with
    | run :: k :: _ => (Span.ofText run, numeralValue k.toList)
    | _ => (⟨1, 0⟩, 0)

/-- The entries of `compositions`. -/
def compositionList : List ((Nat × Nat) × Nat) :=
  (entries " " compositions).map fun s =>
    match s.splitOn ":" with
    | pair :: c :: _ =>
      let ends := pair.splitOn "."
      ((hexValue (ends.headD "").toList, hexValue (ends.getLastD "").toList), hexValue c.toList)
    | _ => ((0, 0), 0)

/-- The letters of a syllable that decomposes by rule. -/
def syllableLetters (n : Nat) : List Nat :=
  let i := n - 0xAC00
  let final := i % 28
  [0x1100 + i / 588, 0x1161 + i % 588 / 28] ++ (if final = 0 then [] else [0x11A7 + final])

/-- The compatibility decomposition of a character. -/
def decomposeChar (c : Char) : List Char :=
  let n := c.toNat
  if n < 128 then [c]
  else if 0xAC00 ≤ n ∧ n ≤ 0xD7A3 then (syllableLetters n).map Char.ofNat
  else
    match decompositionList.find? fun e => e.1.first ≤ n && n ≤ e.1.last with
    | some (run, out) =>
      if run.first = run.last then out.map Char.ofNat
      else out.map fun m => Char.ofNat (m + (n - run.first))
    | none => [c]

/-- The combining class of a character: zero for one that stands on its own. -/
def combiningClass (c : Char) : Nat :=
  if c.toNat < 0x300 then 0
  else ((combiningList.find? fun e => e.1.first ≤ c.toNat && c.toNat ≤ e.1.last).map (·.2)).getD 0

/-- Puts a character before the marks of higher class at the end of a text that is read backwards. -/
def insertMark (c : Char) : List Char → List Char
  | [] => [c]
  | d :: before =>
    if combiningClass c ≠ 0 ∧ combiningClass c < combiningClass d then d :: insertMark c before
    else c :: d :: before

/-- The text with its marks in canonical order. -/
def reorder (cs : List Char) : List Char := (cs.foldl (fun acc c => insertMark c acc) []).reverse

/-- The character that two characters compose to. -/
def composePair? (a b : Char) : Option Char :=
  let m := a.toNat
  let n := b.toNat
  if 0x1100 ≤ m ∧ m < 0x1113 ∧ 0x1161 ≤ n ∧ n < 0x1176 then
    some (Char.ofNat (0xAC00 + ((m - 0x1100) * 21 + (n - 0x1161)) * 28))
  else if 0xAC00 ≤ m ∧ m ≤ 0xD7A3 ∧ (m - 0xAC00) % 28 = 0 ∧ 0x11A7 < n ∧ n < 0x11C3 then
    some (Char.ofNat (m + (n - 0x11A7)))
  else ((compositionList.find? fun e => e.1.1 == m && e.1.2 == n).map (·.2)).map Char.ofNat

/-- Composes a text: `starter` is the last character of class zero and `marks` are those after it,
read backwards. -/
def composeFrom (starter : Option Char) (marks : List Char) : List Char → List Char
  | [] => starter.toList ++ marks.reverse
  | c :: rest =>
    let k := combiningClass c
    let free := match marks with
      | [] => true
      | d :: _ => combiningClass d < k
    match (if free then starter.bind (composePair? · c) else none) with
    | some d => composeFrom (some d) marks rest
    | none =>
      if k = 0 then starter.toList ++ marks.reverse ++ composeFrom (some c) [] rest
      else composeFrom starter (c :: marks) rest

/-- The normal form of compatibility composition. -/
def normalize (s : String) : String :=
  if s.toList.all fun c => c.toNat < 128 then s
  else String.ofList (composeFrom none [] (reorder (s.toList.flatMap decomposeChar)))

end Gabarit.Text
