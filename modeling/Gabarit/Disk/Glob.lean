import Gabarit.Disk.Basic

/-!
# Searching files by their names

* `NamePattern`: a pattern for names, with `*`, `?` and sets of characters;
* `NamePattern.parse`, `NamePattern.accepts`: reading and using it;
* `Disk.search`: the paths at and below a directory whose last components fit the components of a pattern.
-/

namespace Gabarit

/-- A part of a pattern for names. -/
inductive NamePattern where
  /-- Any characters. -/
  | many
  /-- One character, inside or outside of ranges. -/
  | oneOf (negated : Bool) (ranges : List (Char × Char))
  deriving Repr

namespace NamePattern

/-- The ranges of a set; a range that ends before it starts is empty. -/
def rangesOf : List Char → List (Char × Char)
  | a :: '-' :: b :: rest => (a, b) :: rangesOf rest
  | c :: rest => (c, c) :: rangesOf rest
  | [] => []

/-- The characters of a set, and what follows its closing bracket; a bracket right at the start is a
member. -/
def splitSet? (cs : List Char) : Option (Bool × List Char × List Char) :=
  let (negated, cs) := match cs with
    | '!' :: rest => (true, rest)
    | cs => (false, cs)
  let (first, cs) := match cs with
    | ']' :: rest => ([']'], rest)
    | cs => ([], cs)
  match cs.dropWhile (· != ']') with
  | _ :: rest => some (negated, first ++ cs.takeWhile (· != ']'), rest)
  | [] => none

/-- Reads a pattern. -/
def parseFrom : Nat → List Char → List NamePattern
  | 0, _ => []
  | _, [] => []
  | fuel + 1, '*' :: rest => .many :: parseFrom fuel rest
  | fuel + 1, '?' :: rest => .oneOf true [] :: parseFrom fuel rest
  | fuel + 1, '[' :: rest =>
    match splitSet? rest with
    | some (negated, members, rest) => .oneOf negated (rangesOf members) :: parseFrom fuel rest
    | none => .oneOf false [('[', '[')] :: parseFrom fuel rest
  | fuel + 1, c :: rest => .oneOf false [(c, c)] :: parseFrom fuel rest

/-- Reads a pattern. -/
def parse (s : String) : List NamePattern := parseFrom s.length s.toList

/-- The ends of a text, the whole text first. -/
def suffixes : List Char → List (List Char)
  | [] => [[]]
  | c :: rest => (c :: rest) :: suffixes rest

/-- The whole text fits the pattern. -/
def fits : List NamePattern → List Char → Bool
  | [], cs => cs.isEmpty
  | .many :: rest, cs => (suffixes cs).any fun tail => fits rest tail
  | .oneOf negated ranges :: rest, c :: cs =>
    (ranges.any fun r => r.1 ≤ c && c ≤ r.2) != negated && fits rest cs
  | .oneOf .. :: _, [] => false

/-- The name fits the pattern. -/
def accepts (pattern name : String) : Bool := fits (parse pattern) name.toList

/-- Two stars stand next to each other. -/
def hasDoubleStar : List Char → Bool
  | '*' :: '*' :: _ => true
  | _ :: rest => hasDoubleStar rest
  | [] => false

/-- The text is a pattern for several names. -/
def isWild (s : String) : Bool := s.toList.any fun c => c == '*' || c == '?' || c == '['

end NamePattern

namespace Disk

/-- Steps from a directory to what fits the components of a pattern, by their components. Two stars alone
stand for any directories. -/
def select (d : Disk) (base : Place) : List String → List (List String)
  | [] => [[]]
  | pattern :: rest =>
    if pattern = "**" then
      (d.directoriesFrom base).flatMap fun directory =>
        (select d directory rest).map (directory.drop base.length ++ ·)
    else
      let isFit (name : String) : Bool :=
        if NamePattern.isWild pattern then NamePattern.accepts pattern name else name == pattern
      ((d.children base).filter isFit).flatMap fun name => (select d (base ++ [name]) rest).map (name :: ·)

/-- The paths below a directory, by their components there, whose last components fit those of a pattern.
In a component, two stars cannot stand next to each other beside other characters. -/
def search (d : Disk) (base : Place) (pattern : List String) : Except Fault (List (List String)) :=
  if pattern.any fun p => p != "**" && NamePattern.hasDoubleStar p.toList then .error .badPattern
  else .ok (d.select base ("**" :: pattern)).eraseDups

end Disk

end Gabarit
