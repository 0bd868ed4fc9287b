import Gabarit.Fault
import Gabarit.Number.Shortest
import Gabarit.Value.Basic

/-!
# Texts of values

* `floatText`: the text of a floating-point number;
* `Value.written`: a value as it is written inside a collection, texts in quotes;
* `Value.text`: a value as text, where a text is itself.

Integers can be too long to be written, and a text with a surrogate has no characters to be given by.
-/

namespace Gabarit

/-- Values are positional from `1e-4` up to `1e16`; exponents have a sign and two digits. -/
def valueLayout : FloatLayout := ⟨-4, 16, true, 2⟩

/-- The text of a floating-point number. -/
def floatText (x : Binary64) : String :=
  if x.isNaN then "nan"
  else if x.isInfinite then (if x.isNegative then "-inf" else "inf")
  else String.ofList (x.chars valueLayout)

namespace Value

/-- The text of an integer, unless it is too long. -/
def intText (n : Int) : Except Fault String :=
  if Text.exceedsDigitLimit n then .error .tooManyDigits else .ok (Text.intNumeral n)

/-- A truth value as it is written. -/
def boolText (b : Bool) : String := if b then "True" else "False"

/-- A clock as it is written. -/
def zoneWritten (seconds : Int) : String :=
  if seconds = 0 then "datetime.timezone.utc"
  else
    let days := seconds.fdiv 86400
    let rest := seconds - days * 86400
    let parts := (if days = 0 then [] else ["days=" ++ Text.intNumeral days]) ++
      (if rest = 0 then [] else ["seconds=" ++ Text.intNumeral rest])
    "datetime.timezone(datetime.timedelta(" ++ ", ".intercalate parts ++ "))"

/-- A timestamp as it is written: its fields, those of the time only up to the last that is needed. -/
def timestampWritten (t : Timestamp) : String :=
  let fields := [t.date.year, t.date.month, t.date.day, t.hour, t.minute] ++
    (if t.second = 0 ∧ t.micro = 0 then [] else [(t.second : Int)]) ++
    (if t.micro = 0 then [] else [(t.micro : Int)])
  "datetime.datetime(" ++ ", ".intercalate (fields.map Text.intNumeral) ++
    (t.offset.elim "" fun s => ", tzinfo=" ++ zoneWritten s) ++ ")"

/-- Written members between brackets. -/
def bracketed (left right : String) (members : List String) : String :=
  left ++ ", ".intercalate members ++ right

/-- A tuple of written members; one member is followed by a comma. -/
def tupleWritten : List String → String
  | [a] => "(" ++ a ++ ",)"
  | members => bracketed "(" ")" members

mutual

/-- The value as it is written inside a collection. -/
def written : Value → Except Fault String
  | .none => .ok "None"
  | .bool b => .ok (boolText b)
  | .int n => intText n
  | .float x => .ok (floatText x)
  | .str s => .ok (Text.quoted s)
  | .broken t => .ok (String.ofList (Text.quotedPoints t.1))
  | .bytes bs => .ok (Text.quotedBytes bs)
  | .bytearray bs => .ok ("bytearray(" ++ Text.quotedBytes bs ++ ")")
  | .list xs => (writtenList xs).map (bracketed "[" "]")
  | .tuple xs => (writtenList xs).map tupleWritten
  | .set xs => if xs.isEmpty then .ok "set()" else (writtenList xs).map (bracketed "\x7b" "\x7d")
  | .dict entries | .defaulting entries _ => (writtenEntries entries).map (bracketed "\x7b" "\x7d")
  | .range start stop step => do
    let a ← intText start
    let b ← intText stop
    if step = 1 then pure (bracketed "range(" ")" [a, b])
    else return bracketed "range(" ")" [a, b, ← intText step]
  | .cursor _ => .ok "<list_iterator object>"
  | .record fields => (writtenFields fields).map (bracketed "namespace(" ")")
  | .keyed _ => .ok "<Items object>"
  | .function name => .ok ("<function " ++ name ++ ">")
  | .date d => .ok (bracketed "datetime.date(" ")" ([d.year, d.month, d.day].map Text.intNumeral))
  | .timestamp t => .ok (timestampWritten t)
  | .zone s => .ok (zoneWritten s)
  | .type name => .ok ("<class '" ++ name ++ "'>")
termination_by structural v => v

/-- The written members of a collection. -/
def writtenList : List Value → Except Fault (List String)
  | [] => .ok []
  | x :: xs => do
    let s ← written x
    return s :: (← writtenList xs)
termination_by structural xs => xs

/-- The written entries of a mapping. -/
def writtenEntries : List (Value × Value) → Except Fault (List String)
  | [] => .ok []
  | (k, v) :: rest => do
    let a ← written k
    let b ← written v
    return (a ++ ": " ++ b) :: (← writtenEntries rest)
termination_by structural es => es

/-- The written attributes of a record; one without a name is not shown. -/
def writtenFields : List (String × Value) → Except Fault (List String)
  | [] => .ok []
  | (name, v) :: rest =>
    if name = "" then writtenFields rest
    else do
      let s ← written v
      return (name ++ "=" ++ s) :: (← writtenFields rest)
termination_by structural fs => fs

end

/-- The text of a value. -/
def text : Value → Except Fault String
  | .str s => .ok s
  | .broken _ => .error .brokenText
  | .date d => .ok (Timestamp.dateText d)
  | .timestamp t => .ok (t.isoText " ")
  | .zone s => .ok (Timestamp.zoneName s)
  | v => v.written

end Value

end Gabarit
