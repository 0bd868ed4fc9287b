/-!
# Binary floating-point numbers

Numbers with 53 significant bits, in the 64-bit interchange format, with exact arithmetic on naturals.

* `Binary64`: a number, held as its 64 bits;
* `magnitude`, `significand`, `exponent`: the parts of a finite number, `± significand * 2 ^ exponent`;
* `ofQuotient`: the number nearest to a quotient, a tie going to the even neighbour;
* `ofDecimal`: the number nearest to a decimal, `± digits * 10 ^ e`;
* `compare?`, `compareInt?`: exact comparison, undefined for NaN;
* `add`, `mul`: the number nearest to a sum or a product.
-/

namespace Gabarit

/-- A floating-point number in the 64-bit binary interchange format. -/
structure Binary64 where
  bits : UInt64
  deriving DecidableEq

namespace Binary64

/-- The bits other than the sign; magnitudes ascend as the numbers do. -/
def magnitude (x : Binary64) : Nat := x.bits.toNat % Nat.pow 2 63

/-- The sign bit is set. -/
def isNegative (x : Binary64) : Bool := Nat.pow 2 63 ≤ x.bits.toNat

/-- The magnitude of infinity; greater ones are not numbers. -/
def infinityMagnitude : Nat := 2047 * Nat.pow 2 52

/-- The number with a sign and a magnitude. -/
def ofMagnitude (neg : Bool) (m : Nat) : Binary64 :=
  ⟨UInt64.ofNat ((if neg then Nat.pow 2 63 else 0) + m)⟩

/-- An infinity. -/
def infinity (neg : Bool) : Binary64 := ofMagnitude neg infinityMagnitude

/-- The value that is not a number. -/
def nan : Binary64 := ofMagnitude false (infinityMagnitude + Nat.pow 2 51)

/-- A zero. -/
def zero (neg : Bool) : Binary64 := ofMagnitude neg 0

/-- The value is not a number. -/
def isNaN (x : Binary64) : Bool := infinityMagnitude < x.magnitude

/-- The number is an infinity. -/
def isInfinite (x : Binary64) : Bool := x.magnitude == infinityMagnitude

/-- The number is neither infinite nor NaN. -/
def isFinite (x : Binary64) : Bool := x.magnitude < infinityMagnitude

/-- The number is a zero. -/
def isZero (x : Binary64) : Bool := x.magnitude == 0

/-- The integer significand of a finite number. -/
def significand (x : Binary64) : Nat :=
  if x.magnitude < Nat.pow 2 52 then x.magnitude else Nat.pow 2 52 + x.magnitude % Nat.pow 2 52

/-- A finite number is its significand times two to the power of `steps - 1074`. -/
def steps (x : Binary64) : Nat := x.magnitude / Nat.pow 2 52 - 1

/-- The numerator of the magnitude of a finite number. -/
def numerator (x : Binary64) : Nat := x.significand * Nat.pow 2 (x.steps - 1074)

/-- The denominator of the magnitude of a finite number. -/
def denominator (x : Binary64) : Nat := Nat.pow 2 (1074 - x.steps)

/-- The number with its sign changed. -/
def negate (x : Binary64) : Binary64 := ofMagnitude (!x.isNegative) x.magnitude

/-- The quotient rounded to a natural number, a half going to the even neighbour. -/
def divideToEven (num den : Nat) : Nat :=
  let q := num / den
  let twice := 2 * (num % den)
  if twice < den then q
  else if den < twice then q + 1
  else q + q % 2

/-- The exponent of the greatest power of two not above `num / den`, shifted up by 1126 and not below
zero. -/
def binaryPlace (num den : Nat) : Nat :=
  -- `num / den` lies between two to the powers `k - 1` and `k + 1`, for `k` this difference
  let up := 1126 + num.log2
  let k := up - den.log2
  if num * Nat.pow 2 (1126 - k) < den * Nat.pow 2 (k - 1126) then k - 1 else k

/-- The steps of the representable number nearest to `num / den`. -/
def stepsOf (num den : Nat) : Nat := binaryPlace num den - 104

/-- The magnitude of the number nearest to `num / den`, without a bound above. -/
def roundMagnitude (num den : Nat) : Nat :=
  let s := stepsOf num den
  s * Nat.pow 2 52 + divideToEven (num * Nat.pow 2 (1074 - s)) (den * Nat.pow 2 (s - 1074))

/-- The number nearest to `num / den`; beyond the greatest finite number it is infinite. -/
def ofQuotient (neg : Bool) (num den : Nat) : Binary64 :=
  if num = 0 then zero neg else ofMagnitude neg (min (roundMagnitude num den) infinityMagnitude)

/-- The number nearest to `digits * 10 ^ e`. Exponents that are far out of range for the count of the
digits are decided without computing the power. -/
def ofDecimal (neg : Bool) (digits : Nat) (e : Int) : Binary64 :=
  if digits = 0 then zero neg
  else
    let places : Int := (Nat.log2 digits : Int) / 3 + 1
    if e > 400 then infinity neg
    else if places + e < -400 then zero neg
    else if e < 0 then ofQuotient neg digits (Nat.pow 10 e.natAbs)
    else ofQuotient neg (digits * Nat.pow 10 e.natAbs) 1

/-- The number nearest to an integer. -/
def ofInt (n : Int) : Binary64 := ofQuotient (n < 0) n.natAbs 1

/-- The order of two quotients with a sign. -/
def compareQuotients (neg : Bool) (num den : Nat) (neg' : Bool) (num' den' : Nat) : Ordering :=
  let a : Int := (if neg then -1 else 1) * (num * den')
  let b : Int := (if neg' then -1 else 1) * (num' * den)
  compare a b

/-- The order of a number against an integer; NaN has none. -/
def compareInt? (x : Binary64) (n : Int) : Option Ordering :=
  if x.isNaN then none
  else if x.isInfinite then some (if x.isNegative then .lt else .gt)
  else some (compareQuotients x.isNegative x.numerator x.denominator (n < 0) n.natAbs 1)

/-- The order of two numbers; NaN has none, and the two zeros are equal. -/
def compare? (x y : Binary64) : Option Ordering :=
  if x.isNaN || y.isNaN then none
  else
    let key (z : Binary64) : Int := if z.isNegative then -(z.magnitude : Int) else z.magnitude
    some (compare (key x) (key y))

/-- The integer part of a finite number, toward zero. -/
def truncate (x : Binary64) : Int :=
  let q : Int := (x.numerator / x.denominator : Nat)
  if x.isNegative then -q else q

/-- The numerator of a finite number with its sign. -/
def signedNumerator (x : Binary64) : Int := if x.isNegative then -(x.numerator : Int) else x.numerator

/-- The product of two numbers. -/
def mul (x y : Binary64) : Binary64 :=
  let neg := x.isNegative != y.isNegative
  if x.isNaN || y.isNaN then nan
  else if x.isInfinite || y.isInfinite then if x.isZero || y.isZero then nan else infinity neg
  else ofQuotient neg (x.numerator * y.numerator) (x.denominator * y.denominator)

/-- The sum of two numbers. -/
def add (x y : Binary64) : Binary64 :=
  if x.isNaN || y.isNaN then nan
  else if x.isInfinite then if y.isInfinite && x.isNegative != y.isNegative then nan else x
  else if y.isInfinite then y
  else
    let n := x.signedNumerator * y.denominator + y.signedNumerator * x.denominator
    if n = 0 then zero (x.isNegative && y.isNegative)
    else ofQuotient (n < 0) n.natAbs (x.denominator * y.denominator)

end Binary64

end Gabarit
