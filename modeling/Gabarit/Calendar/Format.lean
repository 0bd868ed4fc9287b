import Gabarit.Calendar.Timestamp
import Gabarit.Text.Case

/-!
# Formatted dates

Dates are formatted by a pattern in which `%` starts a conversion: flags, a width, a modifier and a
letter, as in `%d`, `%_5e` or `%^B`.

* `Directive`: one conversion of a pattern;
* `Directive.chars`: the characters of a conversion;
* `formatChars`: a whole pattern, with the conversions `%f`, `%z` and `%Z` replaced first;
* `format`: the text, which is empty when it outgrows the room that the pattern gives it.
-/

namespace Gabarit.Timestamp

/-- The names of the days, from Sunday. -/
def dayNames : List String :=
  ["Sunday", "Monday", "Tuesday", "Wednesday", "Thursday", "Friday", "Saturday"]

/-- The names of the months. -/
def monthNames : List String :=
  ["January", "February", "March", "April", "May", "June", "July", "August", "September", "October",
    "November", "December"]

/-- How a field is filled up to its width. -/
inductive Padding where
  | standard
  | blanks
  | zeros
  | nothing
  deriving DecidableEq

/-- One conversion of a pattern. -/
structure Directive where
  padding : Padding := .standard
  upper : Bool := false
  swapCase : Bool := false
  width : Option Nat := none
  modifier : Option Char := none
  letter : Option Char := none
  /-- The characters as written, from the percent sign on. -/
  written : List Char

/-- The flags at the start of a conversion. -/
def readFlags (d : Directive) : List Char → Directive × List Char
  | [] => (d, [])
  | c :: rest =>
    let d' := { d with written := d.written ++ [c] }
    if c = '_' then readFlags { d' with padding := .blanks } rest
    else if c = '-' then readFlags { d' with padding := .nothing } rest
    else if c = '0' then readFlags { d' with padding := .zeros } rest
    else if c = '^' then readFlags { d' with upper := true } rest
    else if c = '#' then readFlags { d' with swapCase := true } rest
    else (d, c :: rest)

/-- Reads a conversion, after its percent sign, with a width up to `limit`; a letter may be missing at
the end of the pattern. -/
def readDirective (limit : Nat) (cs : List Char) : Directive × List Char :=
  let (d, rest) := readFlags { written := ['%'] } cs
  let isDigit (c : Char) : Bool := (Text.asciiDigit? c).isSome
  let ds := rest.takeWhile isDigit
  let rest := rest.dropWhile isDigit
  let d := if ds.isEmpty then d
    else { d with width := some (min (Text.numeralValue ds) limit), written := d.written ++ ds }
  let (d, rest) := match rest with
    | c :: r =>
      if c = 'E' ∨ c = 'O' then ({ d with modifier := some c, written := d.written ++ [c] }, r)
      else (d, rest)
    | [] => (d, [])
  match rest with
  | c :: r => ({ d with letter := some c, written := d.written ++ [c] }, r)
  | [] => (d, [])

/-- Fills characters up to the width of the field, from the left. -/
def Directive.fill (d : Directive) (cs : List Char) : List Char :=
  List.replicate (d.width.getD 0 - cs.length) (if d.padding = .zeros then '0' else ' ') ++ cs

/-- The upper-case form of a character, if it is a single one. -/
def upperLetter (c : Char) : Char :=
  match Text.upperChar c with
  | [u] => u
  | _ => c

/-- A field of text. -/
def Directive.text (d : Directive) (cs : List Char) : List Char :=
  d.fill (if d.upper then cs.map upperLetter else cs)

/-- The digits of an integer, after its sign. -/
def intChars (n : Int) : List Char := (Text.intNumeral n).toList

/-- A numeric field of at least `digits` places; `blank` fields are filled with blanks by default. -/
def Directive.number (d : Directive) (digits : Nat) (blank : Bool) (n : Int) : List Char :=
  let ds := Text.numeralChars n.natAbs
  let sign := if n < 0 then ['-'] else []
  let room := max digits (d.width.getD 0) - (sign.length + ds.length)
  let padding := if blank && d.padding = .standard then .blanks else d.padding
  match padding with
  | .nothing => { d with padding := .nothing }.fill (sign ++ ds)
  | .blanks => List.replicate room ' ' ++ sign ++ ds
  | _ => sign ++ List.replicate room '0' ++ ds

/-- The hour on a clock of twelve hours. -/
def hour12 (t : Timestamp) : Nat := if t.hour % 12 = 0 then 12 else t.hour % 12

/-- The characters of a conversion; `sub` formats the pattern that a compound conversion stands for. -/
def Directive.chars (sub : String → List Char) (t : Timestamp) (d : Directive) : List Char :=
  let number := d.number
  let named (d : Directive) (s : String) : List Char :=
    { d with upper := d.upper || d.swapCase }.text s.toList
  let compound (s : String) : List Char :=
    let cs := sub s
    d.fill (if d.upper then cs.map upperLetter else cs)
  let unknown := d.text d.written
  let plain (r : List Char) : List Char := if d.modifier = none then r else unknown
  let noEra (r : List Char) : List Char := if d.modifier = some 'E' then unknown else r
  let noAlternative (r : List Char) : List Char := if d.modifier = some 'O' then unknown else r
  let weekday := t.date.weekday
  let day := dayNames.getD weekday ""
  let month := monthNames.getD (t.date.month - 1) ""
  let halfDay := if t.hour < 12 then "AM" else "PM"
  let yearDay := t.date.dayOfYear
  let (isoYear, isoNumber) := t.date.isoWeek
  match d.letter with
  | none => unknown
  | some c => match c with
    | '%' => d.fill ['%']
    | 'a' => plain (named d (String.ofList (day.toList.take 3)))
    | 'A' => plain (named d day)
    | 'b' | 'h' =>
      if d.modifier = some 'E' then { d with upper := d.upper || d.swapCase }.text d.written
      else named d (String.ofList (month.toList.take 3))
    | 'B' => noEra (named d month)
    | 'c' => noAlternative (compound "%a %b %e %H:%M:%S %Y")
    | 'C' => number 1 false (t.date.year / 100)
    | 'x' => noAlternative (compound "%m/%d/%y")
    | 'D' => plain (compound "%m/%d/%y")
    | 'd' => noEra (number 2 false t.date.day)
    | 'e' => noEra (number 2 true t.date.day)
    | 'F' => plain (compound "%Y-%m-%d")
    | 'H' => noEra (number 2 false t.hour)
    | 'I' => noEra (number 2 false t.hour12)
    | 'k' => noEra (number 2 true t.hour)
    | 'l' => noEra (number 2 true t.hour12)
    | 'j' => noEra (number 3 false (yearDay + 1))
    | 'M' => noEra (number 2 false t.minute)
    | 'm' => noEra (number 2 false t.date.month)
    | 'n' => d.fill ['\n']
    | 't' => d.fill ['\t']
    | 'P' => d.fill (halfDay.toList.map Char.toLower)
    | 'p' =>
      if d.swapCase then d.fill (halfDay.toList.map Char.toLower) else d.text halfDay.toList
    | 'R' => compound "%H:%M"
    | 'r' => compound "%I:%M:%S %p"
    | 'S' => noEra (number 2 false t.second)
    | 's' => d.fill (intChars (t.clockMicros.fdiv 1000000))
    | 'X' => noAlternative (compound "%H:%M:%S")
    | 'T' => compound "%H:%M:%S"
    | 'u' => number 1 false ((weekday + 6) % 7 + 1 : Nat)
    | 'U' => noEra (number 2 false ((yearDay + 7 - weekday) / 7 : Nat))
    | 'W' => noEra (number 2 false ((yearDay + 7 - (weekday + 6) % 7) / 7 : Nat))
    | 'V' => noEra (number 2 false isoNumber)
    | 'g' => noEra (number 2 false (isoYear % 100))
    | 'G' => noEra (number 1 false isoYear)
    | 'w' => noEra (number 1 false weekday)
    | 'Y' => noAlternative (number 1 false t.date.year)
    | 'y' => number 2 false (t.date.year % 100)
    | 'z' => []
    | 'Z' => if d.padding = .nothing then [] else d.fill []
    | _ => unknown

/-- Formats a pattern; `sub` formats the patterns that compound conversions stand for, and the fuel is
more than the length of the pattern. -/
def patternChars (sub : String → List Char) (limit : Nat) (t : Timestamp) :
    Nat → List Char → List Char
  | 0, _ => []
  | _, [] => []
  | fuel + 1, c :: rest =>
    if c = '%' then
      let r := readDirective limit rest
      r.1.chars sub t ++ patternChars sub limit t fuel r.2
    else c :: patternChars sub limit t fuel rest

/-- Formats a pattern whose compound conversions stand for plain ones. -/
def formatChars (limit : Nat) (t : Timestamp) (cs : List Char) : List Char :=
  let plain (s : String) := patternChars (fun _ => []) limit t (s.length + 1) s.toList
  patternChars plain limit t (cs.length + 1) cs

/-- Replaces the conversions of microseconds and of the clock by their texts. -/
def expandClock (t : Timestamp) : List Char → List Char
  | '%' :: 'z' :: rest => (t.offset.elim [] fun s => (offsetText "" s).toList) ++ expandClock t rest
  | '%' :: 'Z' :: rest => (t.offset.elim [] fun s => (zoneName s).toList) ++ expandClock t rest
  | '%' :: 'f' :: rest => Text.zeroPadded 6 t.micro ++ expandClock t rest
  | '%' :: c :: rest => '%' :: c :: expandClock t rest
  | c :: rest => c :: expandClock t rest
  | [] => []

/-- The room for a formatted text: it starts at 1024 and doubles until it is 256 times the pattern. -/
def formatRoom (patternLength : Nat) : Nat → Nat → Nat
  | 0, room => room
  | fuel + 1, room =>
    if 256 * patternLength ≤ room then room else formatRoom patternLength fuel (2 * room)

/-- The timestamp in the form of a pattern, which ends at its first NUL. A text that is too long for
the pattern is dropped whole. -/
def format (pattern : String) (t : Timestamp) : String :=
  let cs := expandClock t (pattern.toList.takeWhile (· != '\x00'))
  let room := formatRoom cs.length 64 1024
  let out := formatChars room t cs
  if out.length < room then String.ofList out else ""

end Gabarit.Timestamp
