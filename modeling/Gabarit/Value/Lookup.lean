import Gabarit.Value.Equal
import Gabarit.Value.Text

/-!
# Looking into values

* `PathPart`, `PathPart.asName`: a name or an index, one step of a field path, and the name it is at the
  start of one;
* `Value.attribute?`: the attributes of values that are no mappings;
* `Value.element?`: the element at an index, counted from the end when it is negative;
* `Value.lookup`: the value that a path part selects. Mappings are only asked for keys, so that a
  missing key is never taken for something else.
-/

namespace Gabarit

/-- One step of a field path. -/
inductive PathPart where
  | name (s : String)
  | index (n : Int)
  /-- A name with a surrogate in it. -/
  | broken (t : Text.Broken)
  deriving DecidableEq

namespace PathPart

/-- The name that code points spell. -/
def ofPoints (ps : List Text.Point) : PathPart := (Text.ofPoints ps).elim .name .broken

/-- The part as a value. -/
def toValue : PathPart → Value
  | .name s => .str s
  | .index n => .int n
  | .broken t => .broken t

/-- The part as the name that it is by itself. -/
def asName : PathPart → PathPart
  | .index n => .name (Text.intNumeral n)
  | part => part

/-- The part as it is written in messages. -/
def written : PathPart → String
  | .name s => Text.quoted s
  | .index n => Text.intNumeral n
  | .broken t => String.ofList (Text.quotedPoints t.1)

end PathPart

namespace Value

/-- The attributes of an integer. -/
def intAttributes (n : Int) : List (String × Value) :=
  [("real", .int n), ("imag", .int 0), ("numerator", .int n), ("denominator", .int 1)]

/-- The attributes of a date. -/
def dateAttributes (d : Date) : List (String × Value) :=
  [("year", .int d.year), ("month", .int d.month), ("day", .int d.day)]

/-- The attributes of a value that are no functions. Left out are those that are durations or zones of their own,
like the resolution of dates, and the names of two underscores that are not among these. -/
def attributes : Value → List (String × Value)
  | .bool b => intAttributes (if b then 1 else 0)
  | .int n => intAttributes n
  | .float x => [("real", .float x), ("imag", .float (Binary64.zero false))]
  | .range start stop step => [("start", .int start), ("stop", .int stop), ("step", .int step)]
  | .record fields => fields
  | .date d =>
    dateAttributes d ++ [("min", .date ⟨1, 1, 1⟩), ("max", .date ⟨Date.maxYear, 12, 31⟩)]
  | .timestamp t =>
    dateAttributes t.date ++
      [("hour", .int t.hour), ("minute", .int t.minute), ("second", .int t.second),
        ("microsecond", .int t.micro), ("tzinfo", t.offset.elim .none .zone), ("fold", .int 0),
        ("min", .timestamp ⟨⟨1, 1, 1⟩, 0, 0, 0, 0, Option.none⟩),
        ("max", .timestamp ⟨⟨Date.maxYear, 12, 31⟩, 23, 59, 59, 999999, Option.none⟩)]
  | .function name => [("__name__", .str name)]
  | .type name => [("__name__", .str (lastComponent name)), ("__qualname__", .str (lastComponent name))]
  | _ => []

/-- An attribute of a value; its type is one. -/
def attribute? (v : Value) (name : String) : Option Value :=
  (v.attributes.lookup name).or (if name = "__class__" then some (.type v.typeName) else Option.none)

/-- The value is a function, which templates cannot read. -/
def isFunction : Value → Bool
  | .function _ => true
  | _ => false

/-- The place of an index among `n` elements; a negative one counts from the end. -/
def place? (n : Nat) (i : Int) : Option Nat :=
  let j := if i < 0 then i + n else i
  if 0 ≤ j ∧ j < n then some j.toNat else Option.none

/-- The element of a sequence at an index. Texts and bytes are not taken apart. -/
def element? (v : Value) (i : Int) : Option Value :=
  match v with
  | .list xs | .tuple xs => (place? xs.length i).bind (xs[·]?)
  | .bytearray bs => ((place? bs.length i).bind (bs[·]?)).map fun b => .int b.toNat
  | .range start stop step =>
    (place? (rangeLength start stop step) i).map fun j => .int (start + step * j)
  | _ => Option.none

/-- What a name selects in a value that is no mapping: an attribute that is no function, else the
value of a key. -/
def named? (v : Value) (name : String) : Option Value :=
  match v.attribute? name with
  | some w => if w.isFunction then Option.none else some w
  | Option.none =>
    match v with
    | .keyed entries => entries.lookup name
    | _ => Option.none

/-- The value that a part of a path selects. -/
def lookup (v : Value) (part : PathPart) : Option Value :=
  match v with
  | .dict entries => find? part.toValue entries
  | .defaulting entries fallback => some ((find? part.toValue entries).getD fallback)
  | v =>
    match part with
    | .index i => v.element? i
    | .name s => v.named? s
    | .broken _ => Option.none

end Value

end Gabarit
