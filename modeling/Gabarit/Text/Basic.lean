import Gabarit.Text.Span

/-!
# Blank characters, line ends and digits

* `isBlank`: Unicode white space together with the four information separators;
* `trimStart`, `trim`: the blank characters at the start, or at both ends, are cut off;
* `unifyLines`: the text with a line feed at the end of every line;
* `digitValue?`: the value of a decimal digit of any script;
* `numeralValue`: the number that a list of digits writes;
* `numeral`, `intNumeral`: the decimal text of a number;
* `digitLimit`: numbers with more digits than this are refused where text and numbers are converted.
-/

namespace Gabarit.Text

/-! ## Blanks and lines -/

/-- White space in the sense of Unicode, and the information separators `U+001C` to `U+001F`. -/
def isBlank (c : Char) : Bool :=
  let n := c.toNat
  (9 ≤ n && n ≤ 13) || (28 ≤ n && n ≤ 32) || n == 0x85 || n == 0xA0 || n == 0x1680 ||
    (0x2000 ≤ n && n ≤ 0x200A) || n == 0x2028 || n == 0x2029 || n == 0x202F || n == 0x205F ||
    n == 0x3000

/-- The characters after the leading blank ones. -/
def trimStart (cs : List Char) : List Char := cs.dropWhile isBlank

/-- The characters before the trailing blank ones. -/
def trimEnd (cs : List Char) : List Char := (cs.reverse.dropWhile isBlank).reverse

/-- The characters between the leading and the trailing blank ones. -/
def trim (cs : List Char) : List Char := trimEnd (trimStart cs)

/-- `trim` on a text. -/
def strip (s : String) : String := String.ofList (trim s.toList)

/-- Line ends of all kinds as line feeds. -/
def unifyLines : List Char → List Char
  | '\r' :: '\n' :: rest => '\n' :: unifyLines rest
  | '\r' :: rest => '\n' :: unifyLines rest
  | c :: rest => c :: unifyLines rest
  | [] => []

/-! ## Digits

Decimal digits of every script come in runs of ten, from a zero to a nine. -/

/-- The zeros of the runs of decimal digits. -/
def digitZeros : String :=
  "30 660 6f0 7c0 966 9e6 a66 ae6 b66 be6 c66 ce6 d66 de6 e50 ed0 f20 1040 1090 17e0 1810 1946
  19d0 1a80 1a90 1b50 1bb0 1c40 1c50 a620 a8d0 a900 a9d0 a9f0 aa50 abf0 ff10 104a0 10d30 11066
  110f0 11136 111d0 112f0 11450 114d0 11650 116c0 11730 118e0 11950 11c50 11d50 11da0 16a60
  16ac0 16b50 1d7ce 1d7d8 1d7e2 1d7ec 1d7f6 1e140 1e2f0 1e950 1fbf0"

/-- The code points of the zeros beyond ASCII. -/
def foreignZeros : List Nat := ((entries " " digitZeros).map (hexValue ·.toList)).filter (127 ≤ ·)

/-- The value of an ASCII digit. -/
def asciiDigit? (c : Char) : Option Nat :=
  if 48 ≤ c.toNat ∧ c.toNat ≤ 57 then some (c.toNat - 48) else none

/-- The value of a decimal digit of any script. -/
def digitValue? (c : Char) : Option Nat :=
  if c.toNat < 128 then asciiDigit? c
  else (foreignZeros.find? fun z => z ≤ c.toNat && c.toNat ≤ z + 9).map (c.toNat - ·)

/-- A decimal digit of any script. -/
def isDigit (c : Char) : Bool := (digitValue? c).isSome

/-- The number that digits write, the first one the highest; other characters count as zero. -/
def numeralValue (cs : List Char) : Nat :=
  cs.foldl (fun v c => 10 * v + (digitValue? c).getD 0) 0

/-- Digits of a number in base ten, the highest first. -/
def numeralChars (n : Nat) : List Char := Nat.toDigits 10 n

/-- The decimal text of a natural number. -/
def numeral (n : Nat) : String := String.ofList (numeralChars n)

/-- The decimal text of an integer. -/
def intNumeral : Int → String
  | .ofNat n => numeral n
  | .negSucc n => String.ofList ('-' :: numeralChars (n + 1))

/-- The greatest number of digits that conversions between numbers and text accept. -/
def digitLimit : Nat := 4300

/-- The number is too long to be written. -/
def exceedsDigitLimit (n : Int) : Bool := Nat.pow 10 digitLimit ≤ n.natAbs

/-- `n` as at least `width` digits, padded with zeros. -/
def zeroPadded (width n : Nat) : List Char :=
  let ds := numeralChars n
  List.replicate (width - ds.length) '0' ++ ds

/-- Lower-case hexadecimal digits of `n`, at least `width` of them. -/
def hexPadded (width n : Nat) : List Char :=
  let ds := Nat.toDigits 16 n
  List.replicate (width - ds.length) '0' ++ ds

end Gabarit.Text
