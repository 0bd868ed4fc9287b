import Gabarit.Text.Basic

/-!
# Segments

A template is text with two kinds of tags: interpolations between double braces, and block tags between
a brace and a percent sign. A tag stands on one line, and ends at the first closing delimiter.

* `Segment`: text, an interpolation or a block tag;
* `Segment.source`: what a segment was written as;
* `closeTag?`, `readTag?`: the tag at the start of a text;
* `placedSegments`: the segments of a template with their places, interpolations first;
* `pipeStages`: the stages of an interpolation.
-/

namespace Gabarit

/-- A piece of a template. A tag holds the characters it was written as and those between its
delimiters. -/
inductive Segment where
  | text (cs : List Char)
  | echo (written payload : List Char)
  | block (written payload : List Char)
  deriving DecidableEq

namespace Segment

/-- The characters of the template that the segment covers. -/
def source : Segment → List Char
  | .text cs => cs
  | .echo written _ => written
  | .block written _ => written

/-- A kind of tag: its delimiters, of two characters each. -/
structure Delimiters where
  first : Char
  second : Char
  last : Char
  beforeLast : Char

/-- The delimiters of interpolations. -/
def echoDelimiters : Delimiters := ⟨'\x7b', '\x7b', '\x7d', '\x7d'⟩

/-- The delimiters of block tags. -/
def blockDelimiters : Delimiters := ⟨'\x7b', '%', '\x7d', '%'⟩

/-- The characters before the first closing delimiter on this line, and those after it. -/
def closeTag? (d : Delimiters) : List Char → Option (List Char × List Char)
  | a :: b :: rest =>
    if a = d.beforeLast ∧ b = d.last then some ([], rest)
    else if a = '\n' then none
    else (closeTag? d (b :: rest)).map fun (body, after) => (a :: body, after)
  | _ => none

/-- Drops one space at each end. -/
def dropSpaces (body : List Char) : List Char :=
  let body := match body with
    | ' ' :: rest => rest
    | body => body
  match body.getLast? with
  | some ' ' => body.dropLast
  | _ => body

/-- The characters between the delimiters of the tag at the start of a text, and the text after it. -/
def readTag? (d : Delimiters) : List Char → Option (List Char × List Char)
  | a :: b :: rest => if a = d.first ∧ b = d.second then closeTag? d rest else none
  | _ => none

/-- The tag with `body` between its delimiters, as it was written. -/
def writtenTag (d : Delimiters) (body : List Char) : List Char :=
  d.first :: d.second :: (body ++ [d.beforeLast, d.last])

/-- A segment with the number of characters before it. -/
abbrev Placed := Nat × Segment

/-- The text segment of characters read backwards, if there are any, which start at a place. -/
def placedText (place : Nat) (before : List Char) : List Placed :=
  if before.isEmpty then [] else [(place, .text before.reverse)]

/-- Splits a text at its tags of one kind; `before` is the text since the last tag, read backwards, which
starts at `place`, and the fuel is more than the number of characters. -/
def placedFrom (d : Delimiters) (tag : List Char → List Char → Segment) :
    Nat → Nat → List Char → List Char → List Placed
  | 0, _, _, _ => []
  | _, place, before, [] => placedText place before
  | fuel + 1, place, before, c :: rest =>
    match readTag? d (c :: rest) with
    | some (body, after) =>
      let start := place + before.length
      let written := writtenTag d body
      placedText place before ++ (start, tag written (dropSpaces body)) ::
        placedFrom d tag fuel (start + written.length) [] after
    | none => placedFrom d tag fuel place (c :: before) rest

/-- Splits a text, which starts at a place, at its tags of one kind. -/
def placed (d : Delimiters) (tag : List Char → List Char → Segment) (place : Nat) (cs : List Char) :
    List Placed :=
  placedFrom d tag (cs.length + 1) place [] cs

/-- Splits a text segment at its block tags. -/
def placedBlocks : Placed → List Placed
  | (place, .text cs) => placed blockDelimiters .block place cs
  | s => [s]

end Segment

/-- The segments of a template with their places: interpolations are found first, block tags in the text
between them. -/
def placedSegments (source : List Char) : List Segment.Placed :=
  (Segment.placed Segment.echoDelimiters .echo 0 source).flatMap Segment.placedBlocks

/-- `pipeStages` with the characters of the current stage, read backwards, and the quote around the
place. -/
def pipeStagesFrom (current : List Char) (quote : Option Char) : List Char → List (List Char)
  | [] => [Text.trim current.reverse]
  | c :: rest =>
    match quote with
    | some q => pipeStagesFrom (c :: current) (if c = q then none else quote) rest
    | none =>
      if c = '\'' ∨ c = '"' then pipeStagesFrom (c :: current) (some c) rest
      else if c = '|' then Text.trim current.reverse :: pipeStagesFrom [] none rest
      else pipeStagesFrom (c :: current) none rest

/-- The stages of an interpolation: the pieces between the bars that stand outside quotes, trimmed. -/
def pipeStages (cs : List Char) : List (List Char) := pipeStagesFrom [] none cs

end Gabarit
