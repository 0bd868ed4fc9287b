import Gabarit.Calendar.Timestamp
import Gabarit.Number.Binary64
import Gabarit.Text.Quoted

/-!
# Values

What templates are rendered with: plain data, dates, and values that are only looked into.

* `Value`: the values;
* `typeName`, `shortTypeName`: the names that messages give to their types;
* `truthy`: the values that count as true in a condition;
* `rangeLength`: how many numbers a range holds;
* `ofPoints`, `points?`, `entries?`: texts by their code points, and mappings by their entries;
* `elementCount?`: the length of a value that has one.
-/

namespace Gabarit

/-- A value that a template can read. -/
inductive Value where
  | none
  | bool (b : Bool)
  | int (n : Int)
  | float (x : Binary64)
  | str (s : String)
  /-- A text with a surrogate in it. -/
  | broken (t : Text.Broken)
  | bytes (bs : List UInt8)
  /-- Bytes that iterate like a list. -/
  | bytearray (bs : List UInt8)
  | list (xs : List Value)
  | tuple (xs : List Value)
  | set (xs : List Value)
  /-- A mapping in the order of its entries, with different keys. -/
  | dict (entries : List (Value × Value))
  /-- A mapping that has a value for the keys which it does not hold. -/
  | defaulting (entries : List (Value × Value)) (fallback : Value)
  /-- The numbers from `start` on, `step` apart, before `stop`; the step is not zero. -/
  | range (start stop step : Int)
  /-- A one-shot iterator: a name for what is left of a collection. -/
  | cursor (id : Nat)
  /-- A value with attributes. -/
  | record (fields : List (String × Value))
  /-- A value without attributes that answers to some keys. -/
  | keyed (entries : List (String × Value))
  | function (name : String)
  | date (d : Date)
  | timestamp (t : Timestamp)
  /-- The clock of a timestamp, by its offset in seconds. -/
  | zone (seconds : Int)
  /-- The type of a value. -/
  | type (name : String)
  deriving Inhabited

namespace Value

/-- The name of a value's type, with the module that holds it. -/
def typeName : Value → String
  | .none => "NoneType"
  | .bool _ => "bool"
  | .int _ => "int"
  | .float _ => "float"
  | .str _ | .broken _ => "str"
  | .bytes _ => "bytes"
  | .bytearray _ => "bytearray"
  | .list _ => "list"
  | .tuple _ => "tuple"
  | .set _ => "set"
  | .dict _ => "dict"
  | .defaulting .. => "Defaults"
  | .range .. => "range"
  | .cursor _ => "list_iterator"
  | .record _ => "types.SimpleNamespace"
  | .keyed _ => "Items"
  | .function _ => "function"
  | .date _ => "datetime.date"
  | .timestamp _ => "datetime.datetime"
  | .zone _ => "datetime.timezone"
  | .type _ => "type"

/-- The last component of a dotted name. -/
def lastComponent (name : String) : String := (name.splitOn ".").getLastD ""

/-- The name of a value's type. -/
def shortTypeName (v : Value) : String := lastComponent v.typeName

/-- How many numbers a range holds. -/
def rangeLength (start stop step : Int) : Nat :=
  if 0 < step then ((stop - start + step - 1).fdiv step).toNat
  else ((start - stop - step - 1).fdiv (-step)).toNat

/-- The value of a text. -/
def ofPoints (ps : List Text.Point) : Value := (Text.ofPoints ps).elim .str .broken

/-- The code points of a text. -/
def points? : Value → Option (List Text.Point)
  | .str s => some (Text.points (.inl s))
  | .broken t => some (Text.points (.inr t))
  | _ => Option.none

/-- The entries of a mapping. -/
def entries? : Value → Option (List (Value × Value))
  | .dict entries | .defaulting entries _ => some entries
  | _ => Option.none

/-- The length of a value that has one. -/
def elementCount? : Value → Option Nat
  | .str s => some s.length
  | .broken t => some t.1.length
  | .bytes bs | .bytearray bs => some bs.length
  | .list xs | .tuple xs | .set xs => some xs.length
  | .dict entries | .defaulting entries _ => some entries.length
  | .range start stop step => some (rangeLength start stop step)
  | _ => Option.none

/-- A value counts as true unless it is nothing, false, a zero or empty. -/
def truthy : Value → Bool
  | .none => false
  | .bool b => b
  | .int n => n != 0
  | .float x => !x.isZero
  | v => v.elementCount? != some 0

/-- The value is a mapping. -/
def isMapping (v : Value) : Bool := v.entries?.isSome

end Value

end Gabarit
