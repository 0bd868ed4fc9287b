/-!
# Paths

* `Path`: a path in normal form, without empty and `.` components; `..` stays as it is;
* `Path.ofText`, `Path.text`: reading and writing;
* `Path.join`, `Path.parent`, `Path.name`, `Path.below?`: the components of a path.
-/

namespace Gabarit

/-- Where a path starts: at a current directory, at the root, or at the second root that exactly two
slashes name. -/
inductive Anchor where
  | relative
  | root
  | secondRoot
  deriving DecidableEq, Repr

/-- The text of an anchor. -/
def Anchor.text : Anchor → String
  | .relative => ""
  | .root => "/"
  | .secondRoot => "//"

/-- A path. -/
structure Path where
  anchor : Anchor
  parts : List String
  deriving DecidableEq, Repr

namespace Path

/-- Splits a text at a character. -/
def splitAt (sep : Char) : List Char → List (List Char)
  | [] => [[]]
  | c :: rest =>
    if c = sep then [] :: splitAt sep rest
    else match splitAt sep rest with
      | [] => [[c]]
      | piece :: pieces => (c :: piece) :: pieces

/-- The anchor of a path's text. -/
def anchorOf : List Char → Anchor
  | '/' :: '/' :: '/' :: _ => .root
  | '/' :: '/' :: _ => .secondRoot
  | '/' :: _ => .root
  | _ => .relative

/-- The components of a path's text. -/
def componentsOf (cs : List Char) : List String :=
  ((splitAt '/' cs).filter fun p => p ≠ [] ∧ p ≠ ['.']).map String.ofList

/-- The path that a text names. -/
def ofText (s : String) : Path := ⟨anchorOf s.toList, componentsOf s.toList⟩

/-- The text of a path; the empty relative path is a dot. -/
def text (p : Path) : String :=
  if p.anchor = .relative ∧ p.parts = [] then "."
  else p.anchor.text ++ "/".intercalate p.parts

instance : ToString Path := ⟨text⟩

/-- The path does not hang on a current directory. -/
def isAbsolute (p : Path) : Bool := p.anchor != .relative

/-- The path `q` seen from `p`: an absolute one is itself. -/
def join (p q : Path) : Path := if q.isAbsolute then q else ⟨p.anchor, p.parts ++ q.parts⟩

/-- The path of a text seen from `p`. -/
def child (p : Path) (s : String) : Path := p.join (ofText s)

/-- The path without its last component. -/
def parent (p : Path) : Path := ⟨p.anchor, p.parts.dropLast⟩

/-- The last component. -/
def name (p : Path) : String := p.parts.getLastD ""

/-- The path and those above it, the longest first. -/
def ancestors (p : Path) : List Path :=
  ((List.range (p.parts.length + 1)).map fun n => ⟨p.anchor, p.parts.take n⟩).reverse

/-- The components of `p` below `dir`, if it is below or at `dir`. -/
def below? (p dir : Path) : Option (List String) :=
  if p.anchor = dir.anchor ∧ dir.parts.isPrefixOf p.parts then some (p.parts.drop dir.parts.length)
  else none

end Path

end Gabarit
