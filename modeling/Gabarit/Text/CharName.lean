import Gabarit.Text.CharNameTable
import Gabarit.Text.Span

/-!
# Characters by name

* `charNamed?`: the character with a name, which is not case-sensitive, except for the names of
  ideographs and syllables, which follow a rule.
-/

namespace Gabarit.Text

/-- The code points whose names are `CJK UNIFIED IDEOGRAPH-` and their digits. -/
def ideographs : String :=
  "3400-4dbf 4e00-9fff 20000-2a6df 2a700-2b738 2b740-2b81d 2b820-2cea1 2ceb0-2ebe0 30000-3134a"

/-- Names of the initial consonants of syllables. -/
def initials : List String :=
  ["G", "GG", "N", "D", "DD", "R", "M", "B", "BB", "S", "SS", "", "J", "JJ", "C", "K", "T", "P", "H"]

/-- Names of the vowels of syllables. -/
def vowels : List String :=
  ["A", "AE", "YA", "YAE", "EO", "E", "YEO", "YE", "O", "WA", "WAE", "OE", "YO", "U", "WEO", "WE",
    "WI", "YU", "EU", "YI", "I"]

/-- Names of the final consonants of syllables. -/
def finals : List String :=
  ["", "G", "GG", "GS", "N", "NJ", "NH", "D", "L", "LG", "LM", "LB", "LS", "LT", "LP", "LH", "M", "B",
    "BS", "S", "SS", "NG", "J", "C", "K", "T", "P", "H"]

/-- The place of the longest of the names that the text starts with, and the text after it. -/
def longestName (names : List String) (cs : List Char) : Option (Nat × List Char) :=
  let found := names.zipIdx.filter fun (s, _) => s.toList.isPrefixOf cs
  found.foldl (fun best (s, i) => match best with
    | some (_, rest) => if rest.length + s.length > cs.length then some (i, cs.drop s.length) else best
    | none => some (i, cs.drop s.length)) none

/-- The syllable that the names of its letters spell. -/
def syllableNamed? (cs : List Char) : Option Char := do
  let (l, cs) ← longestName initials cs
  let (v, cs) ← longestName vowels cs
  let (t, cs) ← longestName finals cs
  if cs.isEmpty then some (Char.ofNat (0xAC00 + (l * 21 + v) * 28 + t)) else none

/-- The ideograph with a code point of four or five upper-case digits. -/
def ideographNamed? (cs : List Char) : Option Char :=
  if (cs.length = 4 ∨ cs.length = 5) ∧ cs.all (fun c => (hexDigit? c).isSome && !c.isLower) then
    let c := Char.ofNat (hexValue cs)
    if inSpans c (spans ideographs) then some c else none
  else none

/-- Splits an entry of a name table at its equals sign; without one the code point is the next one. -/
def entryCode (next : Nat) (entry : String) : Nat × String :=
  match entry.splitOn "=" with
  | [code, rest] => (hexValue code.toList, rest)
  | _ => (next, entry)

/-- Searches the entries for a name, with the code point and the words of the name before them. -/
def searchNames (target : List String) : Nat → List String → List String → Option Nat
  | _, _, [] => none
  | next, words, entry :: rest =>
    let (code, body) := entryCode next entry
    match body.toList with
    | [] => none
    | mark :: more =>
      let own := (String.ofList more).splitOn " "
      let name := words.take (mark.toNat - 97) ++ (if more.isEmpty then [] else own)
      if name == target then some code else searchNames target (code + 1) name rest

/-- The character that a further name stands for. -/
def aliasNamed? (name : String) : Option Nat :=
  (entries ";" characterAliases).findSome? fun entry =>
    let (code, names) := entryCode 0 entry
    if (names.splitOn ",").contains name then some code else none

/-- The character with a name. -/
def charNamed? (name : List Char) : Option Char :=
  let rest (start : String) : Option (List Char) :=
    if start.toList.isPrefixOf name then some (name.drop start.length) else none
  match rest "HANGUL SYLLABLE ", rest "CJK UNIFIED IDEOGRAPH-" with
  | some cs, _ => syllableNamed? cs
  | _, some cs => ideographNamed? cs
  | none, none =>
    let upper := String.ofList (name.map Char.toUpper)
    ((searchNames (upper.splitOn " ") 0 [] (entries ";" characterNames)).or (aliasNamed? upper)).map
      Char.ofNat

end Gabarit.Text
