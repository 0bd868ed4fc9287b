import Gabarit.Calendar.Format
import Gabarit.Filter.Registry
import Gabarit.Number.Numeral
import Gabarit.Text.Case
import Gabarit.Text.Markup
import Gabarit.Value.Json

/-!
# Standard filters

* `Filter.onText`: a filter that converts the text of the piped value;
* `Filter.length`, `Filter.join`, `Filter.default`, `Filter.truncate`, `Filter.date`: the other filters;
* `Registry.standard`: the registry of the fifteen standard filters.
-/

namespace Gabarit

namespace Filter

/-- The signature of a filter without optional parameters. -/
def plainSignature (function : String) (parameters : List String) : Signature :=
  { function, positional := parameters.map fun name => { name } }

/-- A filter of the piped value alone. -/
def ofValue (function : String) (f : Value → Except Fault Value) : Filter where
  signature := some (plainSignature function ["value"])
  apply
    | [v] => Action.ofExcept (f v)
    | _ => pure .none

/-- A filter of a parameter and the piped value. -/
def ofPair (function parameter : String) (f : Value → Value → Action Value) : Filter where
  signature := some (plainSignature function [parameter, "value"])
  apply
    | [a, v] => f a v
    | _ => pure .none

/-- A filter that converts the text of the piped value. -/
def onText (function : String) (f : String → String) : Filter :=
  ofValue function fun v => v.text.map fun s => .str (f s)

/-- A filter that converts the characters of the piped value. -/
def onChars (function : String) (f : List Char → List Char) : Filter :=
  onText function fun s => String.ofList (f s.toList)

/-- The length of a value. -/
def lengthOf (v : Value) : Except Fault Value :=
  match v.elementCount? with
  | none => .error (.noLength v.typeName)
  | some n => if n < lengthLimit then .ok (.int n) else .error .lengthRange

/-- Joins the texts of a value's items. A separator that is no text has nothing to join with; one of
bytes joins no items only. -/
def join (separator value : Value) : Action Value := do
  let own : Option Value := match separator with
    | .record fields => fields.lookup "join"
    | _ => none
  let joins : Bool := match separator with
    | .str _ | .broken _ | .bytes _ | .bytearray _ => true
    | _ => own.isSome
  if joins then
    let source ← Action.ofExcept value.source
    if let some w := own then throw (.fault (.notCallable w.typeName))
    let texts ← Action.collect Value.text (source.bound (← get) + 1) source
    match separator with
    | .str s => return .str (s.intercalate texts)
    | .broken t => return .ofPoints (t.1.intercalate (texts.map fun s => Text.points (.inl s)))
    | v =>
      if !texts.isEmpty then throw (.fault .joinedText)
      return match v with
        | .bytearray _ => .bytearray []
        | _ => .bytes []
  else throw (.fault (.noAttribute separator.typeName "join"))

/-- The piped value, or the fallback when it does not count as true. -/
def default (fallback value : Value) : Action Value :=
  return if value.truthy then value else fallback

/-- What stands for the text that is cut off. -/
def ellipsis : List Char := "...".toList

/-- The first `limit` characters of a text, the last of them an ellipsis, unless the whole text fits. A
limit that is too short for the ellipsis leaves the ellipsis alone. -/
def cut (limit : Int) (cs : List Char) : List Char :=
  if cs.length ≤ limit then cs else cs.take (limit - ellipsis.length).toNat ++ ellipsis

/-- Cuts the text of a value. A limit has to have an order with integers, and one that leaves some of
the text has to be an integer. -/
def truncate (limit value : Value) : Action Value := do
  let text ← Action.ofExcept value.text
  let cs := text.toList
  if ← Action.ofExcept (Value.holds .atMost (.int cs.length) limit) then return .str text
  else
    match limit.numeric? with
    | some (.int n) => return .str (String.ofList (cut n cs))
    | some (.float x) =>
      if x.compareInt? ellipsis.length = some .lt then return .str (String.ofList ellipsis)
      else throw (.fault .sliceBound)
    | none => throw (.fault .sliceBound)

/-- The floating-point number that a value is or writes. -/
def toNumber (v : Value) : Except Fault Binary64 :=
  let written (x : Option Binary64) : Except Fault Binary64 :=
    match x with
    | some x => .ok x
    | none => do throw (.notANumeral (← v.written))
  match v with
  | .str s => written (Binary64.ofText? s.toList)
  | .broken _ => written none
  | .bytes bs | .bytearray bs => written (Binary64.ofBytes? bs)
  | v =>
    match v.numeric? with
    | some (.int n) =>
      let x := Binary64.ofInt n
      if x.isInfinite then .error .integerRange else .ok x
    | some (.float x) => .ok x
    | none => .error (.notNumeric v.typeName)

/-- The moment that a value is: a date, a timestamp, or seconds since 1970 in universal time. -/
def moment : Value → Except Fault Timestamp
  | .date d => .ok ⟨d, 0, 0, 0, 0, none⟩
  | .timestamp t => .ok t
  | v => do
    let x ← toNumber v
    (Timestamp.ofEpoch? x).mapError .epoch

/-- A type's name where a pattern is expected; nothing is told by itself. -/
def patternTypeName : Value → String
  | .none => "None"
  | v => v.typeName

/-- Formats a moment by a pattern. -/
def date (pattern value : Value) : Action Value := do
  let t ← Action.ofExcept (moment value)
  match pattern with
  | .str s => return .str (t.format s)
  | .broken _ => throw (.fault .brokenText)
  | v => throw (.fault (.patternType (patternTypeName v)))

/-- The standard filters. -/
def all : List (String × Filter) := [
  ("upper", onText "upper" Text.upper),
  ("lower", onText "lower" Text.lower),
  ("title", onText "title" Text.title),
  ("capitalize", onText "capitalize" Text.capitalize),
  ("trim", onChars "trim" Text.trim),
  ("length", ofValue "length" lengthOf),
  ("escape", onChars "escape" Text.escapeMarkup),
  ("urlencode", onChars "urlencode" Text.percentEncode),
  ("nl2br", onChars "nl2br" Text.breakLines),
  ("striptags", onChars "striptags" Text.stripTags),
  ("json", ofValue "to_json" fun v => v.json.map .str),
  ("join", ofPair "join" "separator" join),
  ("default", ofPair "default" "fallback" Filter.default),
  ("truncate", ofPair "truncate" "limit" truncate),
  ("date", ofPair "format_date" "fmt" Filter.date)]

end Filter

/-- The registry of the standard filters. -/
def Registry.standard : Registry := ⟨Filter.all⟩

end Gabarit
