import Gabarit.Number.Binary64
import Gabarit.Text.Basic

/-!
# Shortest decimal text of a floating-point number

Of the decimals that read back as a number the one with the fewest digits is written, and of those the
nearest one.

* `Decimal`: digits with the place of the point;
* `Binary64.shortest`: the shortest decimal that reads back;
* `FloatLayout`, `Decimal.chars`: where positional notation ends and how an exponent looks;
* `Binary64.ofText?`: reading a decimal numeral;
-/

namespace Gabarit

/-- The decimal `digits * 10 ^ exponent`. -/
structure Decimal where
  digits : Nat
  exponent : Int

namespace Decimal

/-- Moves the trailing zeros of the digits to the exponent, at most `fuel` of them. -/
def dropZeros : Nat → Decimal → Decimal
  | 0, d => d
  | fuel + 1, d =>
    if d.digits ≠ 0 ∧ d.digits % 10 = 0 then dropZeros fuel ⟨d.digits / 10, d.exponent + 1⟩ else d

end Decimal

namespace Binary64

/-- The decimal reads back as the magnitude of `x`. -/
def readsBack (x : Binary64) (d : Decimal) : Bool :=
  (ofDecimal false d.digits d.exponent).bits == (ofMagnitude false x.magnitude).bits

/-- The exponent `p` with `10 ^ (p - 1) ≤ num / den < 10 ^ p`. -/
def decimalPlace (num den : Nat) : Int :=
  if den ≤ num then (Text.numeralChars (num / den)).length
  else
    let l := (Text.numeralChars (den / num)).length
    if den ≤ num * Nat.pow 10 (l - 1) then 2 - (l : Int) else 1 - (l : Int)

/-- The neighbours of `num / den` among the multiples of `10 ^ e`, the nearer one first; of two that
are equally near the even one comes first. -/
def neighbours (num den : Nat) (e : Int) : List Decimal :=
  let n := num * Nat.pow 10 (-e).toNat
  let d := den * Nat.pow 10 e.toNat
  let low := n / d
  let near := divideToEven n d
  if near = low then [⟨low, e⟩, ⟨low + 1, e⟩] else [⟨low + 1, e⟩, ⟨low, e⟩]

/-- The exact decimal expansion of a finite number. -/
def expansion (x : Binary64) : Decimal :=
  if x.steps < 1074 then ⟨x.significand * Nat.pow 5 (1074 - x.steps), (x.steps : Int) - 1074⟩
  else ⟨x.significand * Nat.pow 2 (x.steps - 1074), 0⟩

/-- The candidates for the text of a number: its neighbours with 1, 2, … 17 digits. -/
def candidates (x : Binary64) : List Decimal :=
  let p := decimalPlace x.numerator x.denominator
  (List.range 17).flatMap fun (n : Nat) => neighbours x.numerator x.denominator (p - 1 - n)

/-- The decimal with the fewest digits that reads back as the magnitude of `x`, without trailing
zeros. -/
def shortest (x : Binary64) : Decimal :=
  let d := ((candidates x).find? x.readsBack).getD x.expansion
  let short := d.dropZeros 20
  if x.readsBack short then short else d

end Binary64

/-- How a decimal is laid out. -/
structure FloatLayout where
  /-- Positional when the point stands further right than this, counted from the first digit. -/
  lowest : Int
  /-- Positional when the point stands no further right than this. -/
  highest : Int
  /-- A positive exponent is written with a sign. -/
  plus : Bool
  /-- The least number of digits of an exponent. -/
  width : Nat

namespace Decimal

/-- The characters of a decimal: positional with at least one digit on both sides of the point, or with
an exponent. -/
def chars (l : FloatLayout) (d : Decimal) : List Char :=
  let ds := Text.numeralChars d.digits
  let point : Int := ds.length + d.exponent
  if l.lowest < point ∧ point ≤ l.highest then
    if point ≤ 0 then '0' :: '.' :: (List.replicate (-point).toNat '0' ++ ds)
    else if ds.length ≤ point then ds ++ List.replicate (point.toNat - ds.length) '0' ++ ['.', '0']
    else ds.take point.toNat ++ '.' :: ds.drop point.toNat
  else
    let e := point - 1
    let mantissa := match ds with
      | [] => []
      | [c] => [c]
      | c :: rest => c :: '.' :: rest
    let sign := if e < 0 then ['-'] else if l.plus then ['+'] else []
    mantissa ++ 'e' :: sign ++ Text.zeroPadded l.width e.natAbs

end Decimal

namespace Binary64

/-- The characters of a finite number. -/
def chars (l : FloatLayout) (x : Binary64) : List Char :=
  (if x.isNegative then ['-'] else []) ++
    if x.isZero then ['0', '.', '0'] else (x.shortest).chars l

/-- The parts of an unsigned decimal numeral: the digits without the point, and the exponent that goes
with them. The exponent needs a digit, and so does the numeral before it. -/
def splitNumeral? (cs : List Char) : Option (List Char × Int) :=
  let isAscii (c : Char) : Bool := (Text.asciiDigit? c).isSome
  let whole := cs.takeWhile isAscii
  let rest := cs.dropWhile isAscii
  let (frac, rest) := match rest with
    | '.' :: r => (r.takeWhile isAscii, r.dropWhile isAscii)
    | r => ([], r)
  let ds := whole ++ frac
  if ds.isEmpty then none
  else match rest with
    | [] => some (ds, -(frac.length : Int))
    | c :: r =>
      if c = 'e' ∨ c = 'E' then
        let (neg, r) := match r with
          | '-' :: r => (true, r)
          | '+' :: r => (false, r)
          | r => (false, r)
        if r.isEmpty || !r.all isAscii then none
        else
          let e : Int := Text.numeralValue r
          some (ds, (if neg then -e else e) - (frac.length : Int))
      else none

/-- The number that an unsigned decimal numeral with a point or an exponent writes. -/
def ofNumeral? (neg : Bool) (cs : List Char) : Option Binary64 :=
  (splitNumeral? cs).map fun (ds, e) => ofDecimal neg (Text.numeralValue ds) e

end Binary64

end Gabarit
