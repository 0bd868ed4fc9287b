import Gabarit.Number.Shortest
import Gabarit.Text.Basic

/-!
# Numerals with blanks and names

The text of a floating-point number as people write it: blanks may stand around it, underscores between
its digits, the digits may be of any script, and infinities and NaN have names.

* `plainChars`: digits of all scripts as ASCII ones, and blanks beyond ASCII as spaces;
* `dropUnderscores`: the numeral without its underscores, if they stand between digits;
* `Binary64.ofText?`: the number that a text writes.
-/

namespace Gabarit

namespace Text

/-- A digit of any script as an ASCII digit, and a blank beyond ASCII as a space. -/
def plainChar (c : Char) : Char :=
  if c.toNat < 128 then c
  else if isBlank c then ' '
  else match digitValue? c with
    | some d => Char.ofNat (48 + d)
    | none => c

/-- The blanks that may stand around a numeral. -/
def isNumeralBlank (c : Char) : Bool := c == ' ' || (9 ≤ c.toNat && c.toNat ≤ 13)

/-- The characters between the blanks around a numeral. -/
def trimNumeral (cs : List Char) : List Char :=
  ((cs.dropWhile isNumeralBlank).reverse.dropWhile isNumeralBlank).reverse

/-- The characters without underscores, each of which stands between two digits; `before` tells whether
the character before these is a digit. -/
def dropUnderscores (before : Bool) : List Char → Option (List Char)
  | [] => some []
  | c :: rest =>
    if c = '_' then
      if before && (rest.head?.bind asciiDigit?).isSome then dropUnderscores false rest else none
    else (dropUnderscores (asciiDigit? c).isSome rest).map (c :: ·)

end Text

namespace Binary64

/-- The number that a name stands for. -/
def named? (neg : Bool) (cs : List Char) : Option Binary64 :=
  let word := String.ofList (cs.map Char.toLower)
  if word = "inf" ∨ word = "infinity" then some (infinity neg)
  else if word = "nan" then some nan
  else none

/-- The number that a text writes. -/
def ofText? (cs : List Char) : Option Binary64 := do
  let cs ← Text.dropUnderscores false (Text.trimNumeral (cs.map Text.plainChar))
  let (neg, cs) := match cs with
    | '-' :: rest => (true, rest)
    | '+' :: rest => (false, rest)
    | rest => (false, rest)
  (named? neg cs).or (ofNumeral? neg cs)

/-- The number that the characters of bytes write, which have to be ASCII. -/
def ofBytes? (bs : List UInt8) : Option Binary64 :=
  if bs.all (· < 128) then ofText? (bs.map fun b => Char.ofNat b.toNat) else none

end Binary64

end Gabarit
