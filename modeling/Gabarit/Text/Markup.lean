import Gabarit.Charset.Utf8
import Gabarit.Text.Basic

/-!
# Markup

* `QuotePolicy`: which quotes escaping encodes;
* `escapeMarkup`: a text that stands for itself in HTML;
* `replace`: a text with the occurrences of another one replaced;
* `restoreQuotes`: an escaped text whose quotes are encoded by a policy;
* `breakLines`: a text whose lines are divided by break elements;
* `stripTags`: a text without tags;
* `percentEncode`: a text as it is written in the query of a URL.
-/

namespace Gabarit

/-- The quotes that escaping encodes. -/
inductive QuotePolicy where
  | all
  | double
  | none
  deriving DecidableEq, Repr

/-- The policy of a name; a name of no policy stands for encoding double quotes. -/
def QuotePolicy.ofName (name : String) : QuotePolicy :=
  if name = "all" then .all else if name = "none" then .none else .double

namespace Text

/-- A character as it is written in HTML: five of them are written as entities. -/
def escapeMarkupChar (c : Char) : List Char :=
  if c = '&' then "&amp;".toList
  else if c = '<' then "&lt;".toList
  else if c = '>' then "&gt;".toList
  else if c = '"' then "&#34;".toList
  else if c = '\'' then "&#39;".toList
  else [c]

/-- A text as it is written in HTML. -/
def escapeMarkup (cs : List Char) : List Char := cs.flatMap escapeMarkupChar

/-- `replace`, after some characters that belong to the last occurrence. -/
def replaceFrom (old new : List Char) : Nat → List Char → List Char
  | _, [] => []
  | skip + 1, _ :: rest => replaceFrom old new skip rest
  | 0, c :: rest =>
    if old.isPrefixOf (c :: rest) then new ++ replaceFrom old new (old.length - 1) rest
    else c :: replaceFrom old new 0 rest

/-- Replaces the occurrences of a text that is not empty, from left to right. -/
def replace (old new : List Char) (cs : List Char) : List Char := replaceFrom old new 0 cs

/-- Writes the quotes of an escaped text as they are, where the policy does not ask for their entities. -/
def restoreQuotes (quotes : QuotePolicy) (cs : List Char) : List Char :=
  let cs := if quotes ≠ .all then replace "&#39;".toList ['\''] cs else cs
  if quotes = .none then replace "&#34;".toList ['"'] cs else cs

/-- The element before a line end. -/
def lineBreak : List Char := "<br />".toList

/-- Puts an element before every line end: a carriage return, a line feed, or one after the other. -/
def breakLines : List Char → List Char
  | '\r' :: '\n' :: rest => lineBreak ++ '\r' :: '\n' :: breakLines rest
  | '\r' :: rest => lineBreak ++ '\r' :: breakLines rest
  | '\n' :: rest => lineBreak ++ '\n' :: breakLines rest
  | c :: rest => c :: breakLines rest
  | [] => []

/-- `stripTags`, where a tag may be open; an open tag ends at the first `>`. -/
def stripTagsFrom (inside : Bool) : List Char → List Char
  | [] => []
  | c :: rest =>
    if inside then stripTagsFrom (c != '>') rest
    else if c = '<' ∧ rest.contains '>' then stripTagsFrom true rest
    else c :: stripTagsFrom false rest

/-- The text without its tags: each runs from a `<` to the first `>` after it. -/
def stripTags (cs : List Char) : List Char := stripTagsFrom false cs

/-- An ASCII letter or digit, or one of `-`, `.`, `_` and `~`. -/
def isUnreserved (c : Char) : Bool :=
  c.isAlphanum || c == '-' || c == '.' || c == '_' || c == '~'

/-- A byte as a percent sign and two upper-case hexadecimal digits. -/
def percentByte (b : UInt8) : List Char := '%' :: (hexPadded 2 b.toNat).map Char.toUpper

/-- A character in a query: a space is a plus sign, and others are written by their UTF-8 bytes. -/
def percentChar (c : Char) : List Char :=
  if isUnreserved c then [c]
  else if c = ' ' then ['+']
  else (Utf8.encodeChar c).flatMap percentByte

/-- A text as it is written in the query of a URL. -/
def percentEncode (cs : List Char) : List Char := cs.flatMap percentChar

end Text

end Gabarit
