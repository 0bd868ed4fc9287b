import Gabarit.Calendar.Date
import Gabarit.Number.Binary64
import Gabarit.Text.Basic

/-!
# Timestamps

A date with a time of day, and perhaps the offset of its clock from universal time.

* `Timestamp`, `isoText`: the type and its text;
* `zoneName`, `offsetText`: how an offset is named and written;
* `ofEpoch?`: the universal time at a number of seconds since 1970, with the ways it can fail.
-/

namespace Gabarit

/-- A date with a time of day; `offset` is in seconds, and absent when the clock is not known. -/
structure Timestamp where
  date : Date
  hour : Nat
  minute : Nat
  second : Nat
  micro : Nat
  offset : Option Int
  deriving DecidableEq

namespace Timestamp

/-- An offset as hours, minutes and, unless they are zero, seconds, divided by `sep`. -/
def offsetText (sep : String) (seconds : Int) : String :=
  let n := seconds.natAbs
  let two (k : Nat) := String.ofList (Text.zeroPadded 2 k)
  (if seconds < 0 then "-" else "+") ++ two (n / 3600) ++ sep ++ two (n / 60 % 60) ++
    (if n % 60 = 0 then "" else sep ++ two (n % 60))

/-- The name of a clock that has a fixed offset. -/
def zoneName (seconds : Int) : String :=
  if seconds = 0 then "UTC" else "UTC" ++ offsetText ":" seconds

/-- The date as `2024-01-02`. -/
def dateText (d : Date) : String :=
  String.ofList (Text.zeroPadded 4 d.year.toNat ++ '-' :: Text.zeroPadded 2 d.month ++
    '-' :: Text.zeroPadded 2 d.day)

/-- The timestamp in the ISO form, with `sep` between the date and the time. -/
def isoText (sep : String) (t : Timestamp) : String :=
  dateText t.date ++ sep ++
    String.ofList (Text.zeroPadded 2 t.hour ++ ':' :: Text.zeroPadded 2 t.minute ++
      ':' :: Text.zeroPadded 2 t.second ++
      (if t.micro = 0 then [] else '.' :: Text.zeroPadded 6 t.micro)) ++
    (match t.offset with
      | none => ""
      | some s => offsetText ":" s)

/-- Microseconds since 1970 by the timestamp's own clock. -/
def clockMicros (t : Timestamp) : Int :=
  (((t.date.dayNumber * 24 + t.hour) * 60 + t.minute) * 60 + t.second) * 1000000 + t.micro

/-- Microseconds since 1970 in universal time, if the clock is known. -/
def universalMicros? (t : Timestamp) : Option Int :=
  t.offset.map fun s => t.clockMicros - s * 1000000

/-- The timestamp at a number of microseconds since 1970. -/
def ofMicros (us : Int) (offset : Option Int) : Timestamp :=
  let day := us.fdiv 86400000000
  let rest := (us - day * 86400000000).toNat
  let secs := rest / 1000000
  ⟨Date.ofDayNumber day, secs / 3600, secs / 60 % 60, secs % 60, rest % 1000000, offset⟩

/-- Why a number of seconds is no time. -/
inductive EpochFault where
  /-- The number is NaN. -/
  | notANumber
  /-- The seconds do not fit the clock's counter. -/
  | clockRange
  /-- The year does not fit a calendar field. -/
  | fieldRange
  /-- The year is not between 1 and 9999; it is told as a 32-bit number. -/
  | yearRange (year : Int)
  deriving DecidableEq

/-- The universal time at a number of seconds since 1970, to the nearest microsecond, a half going to
the even neighbour. -/
def ofEpoch? (x : Binary64) : Except EpochFault Timestamp :=
  if x.isNaN then .error .notANumber
  else if x.isInfinite then .error .clockRange
  else
    let whole : Int := (x.numerator / x.denominator : Nat)
    let product := Binary64.ofQuotient false (x.numerator % x.denominator * 1000000) x.denominator
    let micros : Int := (Binary64.divideToEven product.numerator product.denominator : Nat)
    let total := whole * 1000000 + micros
    let us := if x.isNegative then -total else total
    let secs := us.fdiv 1000000
    if secs < -(Nat.pow 2 63 : Int) ∨ (Nat.pow 2 63 : Int) ≤ secs then .error .clockRange
    else
      let t := ofMicros us (some 0)
      let field := t.date.year - 1900
      if field < -(Nat.pow 2 31 : Int) ∨ (Nat.pow 2 31 : Int) ≤ field then .error .fieldRange
      else if t.date.year < 1 ∨ Date.maxYear < t.date.year then
        .error (.yearRange (t.date.year.bmod (Nat.pow 2 32)))
      else .ok t

end Timestamp

end Gabarit
