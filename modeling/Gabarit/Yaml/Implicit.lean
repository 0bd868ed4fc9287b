import Gabarit.Calendar.Timestamp
import Gabarit.Number.Binary64
import Gabarit.Number.Numeral
import Gabarit.Text.Case
import Gabarit.Yaml.Basic

/-!
# Types of plain texts

A plain text without a tag is a number, a truth value, a timestamp or nothing if it has the form of one.

* `Tag.ofPlain`, `Tag.ofForm`: the type of a plain text;
* `intOfText`, `floatOfText`, `timestampOfText`: the values of texts of these types. A tag can claim a
  type for any text, so that they can fail.
-/

namespace Gabarit.Yaml

/-- Decimal digits and underscores. -/
def isDigitOrGap (c : Char) : Bool := c.isDigit || c == '_'

/-- The characters after a sign, if there is one. -/
def dropSign : List Char → List Char
  | '-' :: rest => rest
  | '+' :: rest => rest
  | rest => rest

/-- The characters after groups of a colon and a number below sixty, and whether there are any. -/
def dropGroups (found : Bool) : List Char → Bool × List Char
  | ':' :: a :: b :: rest =>
    if '0' ≤ a ∧ a ≤ '5' ∧ b.isDigit then dropGroups true rest
    else if a.isDigit then dropGroups true (b :: rest)
    else (found, ':' :: a :: b :: rest)
  | [':', a] => if a.isDigit then (true, []) else (found, [':', a])
  | rest => (found, rest)

/-- An exponent, which has a sign, or nothing. -/
def isExponent : List Char → Bool
  | [] => true
  | e :: s :: ds =>
    (e == 'e' || e == 'E') && (s == '-' || s == '+') && !ds.isEmpty && ds.all Char.isDigit
  | _ => false

/-- The form of a floating-point number. -/
def isFloatForm (cs : List Char) : Bool :=
  let body := dropSign cs
  let named := [".inf", ".Inf", ".INF"].contains (String.ofList body) ||
    [".nan", ".NaN", ".NAN"].contains (String.ofList cs)
  let fraction (grouped : Bool) (rest : List Char) : Bool :=
    let rest := rest.dropWhile isDigitOrGap
    if grouped then rest.isEmpty else isExponent rest
  named ||
    match cs with
    | '.' :: d :: rest => d.isDigit && fraction false rest
    | _ =>
      match body with
      | d :: rest =>
        d.isDigit &&
          match dropGroups false (rest.dropWhile isDigitOrGap) with
          | (grouped, '.' :: rest) => fraction grouped rest
          | _ => false
      | [] => false

/-- The form of an integer: binary, octal, decimal, hexadecimal, or in base sixty. -/
def isIntForm (cs : List Char) : Bool :=
  match dropSign cs with
  | ['0'] => true
  | '0' :: 'b' :: ds => !ds.isEmpty && ds.all fun c => c == '0' || c == '1' || c == '_'
  | '0' :: 'x' :: ds => !ds.isEmpty && ds.all fun c => (Text.hexDigit? c).isSome || c == '_'
  | '0' :: ds => ds.all fun c => ('0' ≤ c && c ≤ '7') || c == '_'
  | d :: rest => d.isDigit && (dropGroups false (rest.dropWhile isDigitOrGap)).2.isEmpty
  | [] => false

/-- The parts of the text of a timestamp. -/
structure TimestampForm where
  year : List Char
  month : List Char
  day : List Char
  /-- Hour, minute and second, and the fraction of the second. -/
  clock : Option (List Char × List Char × List Char × List Char)
  /-- The sign of the offset, its hours and its minutes; without a sign it is universal time. -/
  zone : Option (Option Bool × List Char × List Char)

/-- Exactly `count` digits, and what follows them. -/
def takeDigits? (count : Nat) (cs : List Char) : Option (List Char × List Char) :=
  let ds := cs.take count
  if ds.length = count ∧ ds.all Char.isDigit then some (ds, cs.drop count) else none

/-- One or two digits, and what follows them. -/
def takeShort? (cs : List Char) : Option (List Char × List Char) :=
  (takeDigits? 2 cs).or (takeDigits? 1 cs)

/-- What follows a character that has to stand here. -/
def after? (c : Char) : List Char → Option (List Char)
  | d :: rest => if c = d then some rest else none
  | [] => none

/-- The offset of a timestamp, which ends its text. -/
def readZone? (cs : List Char) : Option (Option (Option Bool × List Char × List Char)) :=
  match cs.dropWhile fun c => c == ' ' || c == '\t' with
  | [] => if cs.isEmpty then some none else none
  | ['Z'] => some (some (none, [], []))
  | sign :: rest =>
    if sign = '+' ∨ sign = '-' then do
      let (hours, rest) ← takeShort? rest
      match rest with
      | [] => return some (some (sign == '-'), hours, [])
      | ':' :: rest =>
        let (minutes, rest) ← takeDigits? 2 rest
        if rest.isEmpty then return some (some (sign == '-'), hours, minutes) else none
      | _ => none
    else none

/-- The parts of the text of a timestamp, if it is one. -/
def readTimestamp? (cs : List Char) : Option TimestampForm := do
  let (year, rest) ← takeDigits? 4 cs
  let (month, rest) ← takeShort? (← after? '-' rest)
  let (day, rest) ← takeShort? (← after? '-' rest)
  match rest with
  | [] => return ⟨year, month, day, none, none⟩
  | c :: rest =>
    if c = 'T' ∨ c = 't' ∨ c = ' ' ∨ c = '\t' then
      let rest := if c = 'T' ∨ c = 't' then rest else rest.dropWhile fun d => d == ' ' || d == '\t'
      let (hour, rest) ← takeShort? rest
      let (minute, rest) ← takeDigits? 2 (← after? ':' rest)
      let (second, rest) ← takeDigits? 2 (← after? ':' rest)
      let (fraction, rest) := match rest with
        | '.' :: rest => (rest.takeWhile Char.isDigit, rest.dropWhile Char.isDigit)
        | rest => ([], rest)
      return ⟨year, month, day, some (hour, minute, second, fraction), ← readZone? rest⟩
    else none

/-- The form of a timestamp; a date alone has two digits for its month and its day. -/
def isTimestampForm (cs : List Char) : Bool :=
  match readTimestamp? cs with
  | some t => t.clock.isSome || (t.month.length == 2 && t.day.length == 2)
  | none => false

/-- The words for truth values. -/
def truthWords : List (String × Bool) :=
  [("yes", true), ("no", false), ("true", true), ("false", false), ("on", true), ("off", false)]

/-- A word for a truth value in lower case, with a capital, or in capitals. -/
def isTruthForm (s : String) : Bool :=
  truthWords.any fun (w, _) => s == w || s == w.capitalize || s == Text.upper w

/-- A text without a line end after it. -/
def dropLineEnd (cs : List Char) : List Char := if cs.getLast? = some '\n' then cs.dropLast else cs

/-- The type of a plain text. -/
def Tag.ofPlain (text : List Char) : Tag :=
  let cs := dropLineEnd text
  let s := String.ofList cs
  if text.isEmpty || ["~", "null", "Null", "NULL"].contains s then .null
  else if isTruthForm s then .bool
  else if isFloatForm cs then .float
  else if isIntForm cs then .int
  else if s = "<<" then .merge
  else if isTimestampForm cs then .timestamp
  else if s = "=" then .value
  else .str

/-- The type of a text by its form. A text with a surrogate has none. -/
def Tag.ofForm (text : List Text.Point) : Tag :=
  match Text.chars? text with
  | some cs => Tag.ofPlain cs
  | none => .str

/-! ## Values of texts -/

/-- The value of a digit in a base. -/
def digitIn? (base : Nat) (c : Char) : Option Nat :=
  let n := if c.isDigit then c.toNat - 48 else if c.isAlpha then c.toLower.toNat - 87 else base
  if n < base then some n else none

/-- The digits after the mark of a base, if there is one. -/
def dropBaseMark (base : Nat) (cs : List Char) : List Char :=
  match cs with
  | '0' :: m :: rest =>
    if (base = 2 ∧ (m = 'b' ∨ m = 'B')) ∨ (base = 8 ∧ (m = 'o' ∨ m = 'O')) ∨
        (base = 16 ∧ (m = 'x' ∨ m = 'X')) then rest
    else cs
  | _ => cs

/-- The integer that digits of a base write, after a sign. Decimal ones are limited in number. -/
def numberIn (base : Nat) (cs : List Char) : Except Fault Int :=
  let cs := Text.trimNumeral (cs.map Text.plainChar)
  let digits := dropBaseMark base (dropSign cs)
  match digits.mapM (digitIn? base) with
  | none => .error .badNumber
  | some ds =>
    if ds.isEmpty || (base == 10 && Text.digitLimit < ds.length) then .error .badNumber
    else
      let n := ds.foldl (fun v d => v * base + d) 0
      .ok (if cs.head? = some '-' then -(n : Int) else n)

/-- Numbers divided by colons, in base sixty. -/
def groupsOf (cs : List Char) : List (List Char) :=
  cs.foldr (fun c groups => match groups with
    | [] => [[c]]
    | g :: rest => if c = ':' then [] :: g :: rest else (c :: g) :: rest) [[]]

/-- A text without underscores, with the sign it starts with; there has to be a character. -/
def splitSign (text : List Char) : Except Fault (Bool × List Char) :=
  match text.filter (· != '_') with
  | [] => .error .emptyNumber
  | '-' :: rest => .ok (true, rest)
  | '+' :: rest => .ok (false, rest)
  | rest => .ok (false, rest)

/-- The integer that a text writes. -/
def intOfText (text : List Char) : Except Fault Int := do
  let (neg, cs) ← splitSign text
  let n ← match cs with
    | [] => throw .emptyNumber
    | ['0'] => pure 0
    | '0' :: 'b' :: ds => numberIn 2 ds
    | '0' :: 'x' :: ds => numberIn 16 ds
    | '0' :: _ => numberIn 8 cs
    | _ =>
      if cs.contains ':' then do
        let groups ← (groupsOf cs).mapM (numberIn 10)
        pure (groups.foldl (fun v g => v * 60 + g) 0)
      else numberIn 10 cs
  return if neg then -n else n

/-- The floating-point number that a text writes. -/
def floatOfText (text : List Char) : Except Fault Binary64 := do
  let (neg, cs) ← splitSign ((Text.lower (String.ofList text)).toList)
  let number (cs : List Char) : Except Fault Binary64 :=
    match Binary64.ofText? cs with
    | some x => .ok x
    | none => .error .badNumber
  let x ← if cs = ".inf".toList then pure (.infinity false)
    else if cs = ".nan".toList then pure .nan
    else if cs.contains ':' then do
      let groups ← (groupsOf cs).mapM number
      let term (i : Nat) (x : Binary64) : Binary64 := x.mul (.ofInt (Nat.pow 60 i))
      pure ((groups.reverse.zipIdx.map fun (x, i) => term i x).foldl Binary64.add (.zero false))
    else number cs
  return if neg then x.negate else x

/-- The date or the timestamp that a text writes. -/
def timestampOfText (text : List Char) : Except Fault (Date ⊕ Timestamp) := do
  let number (ds : List Char) : Nat := Text.numeralValue ds
  let some t := readTimestamp? (dropLineEnd text) | throw .notTimestamp
  let date : Date := ⟨number t.year, number t.month, number t.day⟩
  if !date.isValid then throw .badNumber
  match t.clock with
  | none => return .inl date
  | some (hour, minute, second, fraction) =>
    let micro := number ((fraction ++ List.replicate 6 '0').take 6)
    let offset : Option Int := t.zone.map fun (sign, hours, minutes) =>
      let seconds : Int := (number hours * 60 + number minutes) * 60
      if sign = some true then -seconds else seconds
    if 24 ≤ number hour ∨ 60 ≤ number minute ∨ 60 ≤ number second ∨
        86400 ≤ (offset.getD 0).natAbs then throw .badNumber
    return .inr ⟨date, number hour, number minute, number second, micro, offset⟩

/-! ## Bytes -/

/-- The value of a digit in base sixty-four. -/
def base64Digit? (c : Char) : Option Nat :=
  if 'A' ≤ c ∧ c ≤ 'Z' then some (c.toNat - 65)
  else if 'a' ≤ c ∧ c ≤ 'z' then some (c.toNat - 71)
  else if c.isDigit then some (c.toNat + 4)
  else if c = '+' then some 62
  else if c = '/' then some 63
  else none

/-- Reads bytes in base sixty-four. `place` is the number of digits read of a group, `carry` what is left
of the last digit, and `pads` the number of equals signs after it; a full group of these ends the text.
Other characters are passed over. -/
def base64From (place carry pads : Nat) : List Char → Except Fault (List UInt8)
  | [] => if place = 0 then .ok [] else .error .badNode
  | c :: rest =>
    if c = '=' then
      if 2 ≤ place ∧ 4 ≤ place + pads + 1 then .ok []
      else base64From place carry (if 2 ≤ place then pads + 1 else pads) rest
    else
      match base64Digit? c with
      | none => base64From place carry pads rest
      | some d =>
        if place = 0 then base64From 1 d 0 rest
        else
          let value := carry * 64 + d
          let low := if place = 1 then 16 else if place = 2 then 4 else 1
          (base64From ((place + 1) % 4) (value % low) 0 rest).map
            (UInt8.ofNat (value / low) :: ·)

/-- The bytes that a text in base sixty-four stands for. -/
def bytesOfText (text : List Char) : Except Fault (List UInt8) :=
  if text.all (·.toNat < 128) then base64From 0 0 0 text else .error .badNode

end Gabarit.Yaml
