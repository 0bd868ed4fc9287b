/-!
# Dates

Days of the Gregorian calendar, extended without end in both directions.

* `Date`: a year, a month and a day;
* `dayNumber`, `ofDayNumber`: days counted from the first of January 1970;
* `weekday`, `dayOfYear`, `isoWeek`: the numbers a calendar shows beside a date.
-/

namespace Gabarit

/-- A day of the calendar. -/
structure Date where
  year : Int
  month : Nat
  day : Nat
  deriving DecidableEq

namespace Date

/-- Every fourth year is a leap year, except the centuries that four hundred does not divide. -/
def isLeap (year : Int) : Bool := year % 4 == 0 && (year % 100 != 0 || year % 400 == 0)

/-- The number of days of a month. -/
def monthLength (year : Int) (month : Nat) : Nat :=
  if month = 2 then (if isLeap year then 29 else 28)
  else if month = 4 ∨ month = 6 ∨ month = 9 ∨ month = 11 then 30
  else 31

/-- The greatest year that a date with bounds may have. -/
def maxYear : Int := 9999

/-- The date exists, in the years 1 to 9999. -/
def isValid (d : Date) : Bool :=
  1 ≤ d.year && d.year ≤ maxYear && 1 ≤ d.month && d.month ≤ 12 && 1 ≤ d.day &&
    d.day ≤ monthLength d.year d.month

/-- Days since the first of January 1970. -/
def dayNumber (d : Date) : Int :=
  -- years begin in March here, so that the leap day is the last day of a year
  let y := if d.month ≤ 2 then d.year - 1 else d.year
  let era := y.fdiv 400
  let yearOfEra := y - era * 400
  let m : Int := if d.month ≤ 2 then (d.month : Int) + 9 else (d.month : Int) - 3
  let dayOfYear := (153 * m + 2) / 5 + (d.day : Int) - 1
  let dayOfEra := yearOfEra * 365 + yearOfEra / 4 - yearOfEra / 100 + dayOfYear
  era * 146097 + dayOfEra - 719468

/-- The date that is a number of days after the first of January 1970. -/
def ofDayNumber (n : Int) : Date :=
  let z := n + 719468
  let era := z.fdiv 146097
  let dayOfEra := z - era * 146097
  let yearOfEra := (dayOfEra - dayOfEra / 1460 + dayOfEra / 36524 - dayOfEra / 146096) / 365
  let dayOfYear := dayOfEra - (365 * yearOfEra + yearOfEra / 4 - yearOfEra / 100)
  let m := (5 * dayOfYear + 2) / 153
  let day := dayOfYear - (153 * m + 2) / 5 + 1
  let month := if m < 10 then m + 3 else m - 9
  let year := yearOfEra + era * 400
  ⟨if month ≤ 2 then year + 1 else year, month.toNat, day.toNat⟩

/-- Days since the last Sunday. -/
def weekday (d : Date) : Nat := ((d.dayNumber + 4) % 7).toNat

/-- Days since the first of January of the same year. -/
def dayOfYear (d : Date) : Nat := (d.dayNumber - (⟨d.year, 1, 1⟩ : Date).dayNumber).toNat

/-- The year and the number of the week that holds the date, where a week belongs to the year of its
Thursday and weeks are counted from one. -/
def isoWeek (d : Date) : Int × Nat :=
  let thursday := ofDayNumber (d.dayNumber - ((d.weekday + 6) % 7 : Nat) + 3)
  (thursday.year, thursday.dayOfYear / 7 + 1)

end Date

end Gabarit
