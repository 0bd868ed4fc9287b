import Gabarit.Text.IdentifierTable
import Gabarit.Text.Compatibility

/-!
# Identifiers

* `isAsciiStart`, `isAsciiContinue`: letters, digits and the underscore;
* `isIdentifier`: the text is an identifier in any script.
-/

namespace Gabarit.Text

/-- An ASCII letter or the underscore. -/
def isAsciiStart (c : Char) : Bool :=
  let n := c.toNat
  (65 ≤ n && n ≤ 90) || (97 ≤ n && n ≤ 122) || n == 95

/-- An ASCII letter or digit, or the underscore. -/
def isAsciiContinue (c : Char) : Bool := isAsciiStart c || (48 ≤ c.toNat && c.toNat ≤ 57)

/-- The runs of `identifierStart`. -/
def startSpans : List Span := spans identifierStart

/-- The runs of `identifierContinue`. -/
def continueSpans : List Span := spans identifierContinue

/-- A character that starts an identifier. -/
def isStart (c : Char) : Bool := if c.toNat < 128 then isAsciiStart c else inSpans c startSpans

/-- A character that continues an identifier. -/
def isContinue (c : Char) : Bool := if c.toNat < 128 then isAsciiContinue c else inSpans c continueSpans

/-- The characters are an identifier. -/
def isIdentifier : List Char → Bool
  | [] => false
  | c :: rest => isStart c && rest.all isContinue

end Gabarit.Text
