import Gabarit.Value.Basic

/-!
# Equality of values

Numbers are equal across their types, truth values count as zero and one, and mappings are equal
whatever the order of their entries.

* `numeric?`, `compareNumbers?`: values that are numbers, and their order;
* `Value.equal`: equality, also that of keys;
* `Value.find?`, `Value.insert`: entries of a mapping.
-/

namespace Gabarit.Value

/-- A number: an integer or a floating-point number. -/
inductive Numeric where
  | int (n : Int)
  | float (x : Binary64)

/-- The value as a number, truth values included. -/
def numeric? : Value → Option Numeric
  | .bool b => some (.int (if b then 1 else 0))
  | .int n => some (.int n)
  | .float x => some (.float x)
  | _ => Option.none

/-- The order of two numbers, exact across their types; NaN has none. -/
def compareNumbers? : Numeric → Numeric → Option Ordering
  | .int a, .int b => some (compare a b)
  | .int a, .float y => (y.compareInt? a).map Ordering.swap
  | .float x, .int b => x.compareInt? b
  | .float x, .float y => x.compare? y

/-- The two numbers are equal. -/
def equalNumbers (a b : Numeric) : Bool := compareNumbers? a b == some .eq

/-- The bytes of a value that holds bytes. -/
def bytes? : Value → Option (List UInt8)
  | .bytes bs | .bytearray bs => some bs
  | _ => Option.none

/-- Ranges are equal when they hold the same numbers. -/
def equalRanges (start stop step start' stop' step' : Int) : Bool :=
  let n := rangeLength start stop step
  n == rangeLength start' stop' step' &&
    (n == 0 || (start == start' && (n == 1 || step == step')))

/-- Timestamps are equal when they show the same time on the same clock, or both have a clock and are
the same moment. -/
def equalTimestamps (a b : Timestamp) : Bool :=
  match a.universalMicros?, b.universalMicros? with
  | some x, some y => x == y
  | Option.none, Option.none => a.clockMicros == b.clockMicros
  | _, _ => false

mutual

/-- The two values are equal. -/
def equal : Value → Value → Bool
  | .none, .none => true
  | .bool a, w => (w.numeric?.map (equalNumbers (.int (if a then 1 else 0)))).getD false
  | .int a, w => (w.numeric?.map (equalNumbers (.int a))).getD false
  | .float a, w => (w.numeric?.map (equalNumbers (.float a))).getD false
  | .str a, .str b => a == b
  | .broken a, .broken b => a == b
  | .bytes a, w => w.bytes? == some a
  | .bytearray a, w => w.bytes? == some a
  | .list xs, .list ys => equalLists xs ys
  | .tuple xs, .tuple ys => equalLists xs ys
  | .set xs, .set ys => xs.length == ys.length && subset xs ys
  | .dict es, w | .defaulting es _, w =>
    (w.entries?.map fun fs => es.length == fs.length && subentries es fs).getD false
  | .range a b c, .range a' b' c' => equalRanges a b c a' b' c'
  | .cursor i, .cursor j => i == j
  | .record fs, .record gs => fs.length == gs.length && subfields fs gs
  | .keyed fs, .keyed gs => fs.length == gs.length && subfields fs gs
  | .function f, .function g => f == g
  | .date a, .date b => a == b
  | .timestamp a, .timestamp b => equalTimestamps a b
  | .zone a, .zone b => a == b
  | .type a, .type b => a == b
  | _, _ => false
termination_by structural v => v

/-- The members are equal one by one. -/
def equalLists : List Value → List Value → Bool
  | [], [] => true
  | x :: xs, y :: ys => equal x y && equalLists xs ys
  | _, _ => false
termination_by structural xs => xs

/-- Every member is in the other set. -/
def subset : List Value → List Value → Bool
  | [], _ => true
  | x :: xs, ys => ys.any (equal x) && subset xs ys
termination_by structural xs => xs

/-- Every entry is in the other mapping. -/
def subentries : List (Value × Value) → List (Value × Value) → Bool
  | [], _ => true
  | (k, v) :: rest, fs =>
    ((fs.find? fun f => equal k f.1).map fun f => equal v f.2).getD false && subentries rest fs
termination_by structural es => es

/-- Every attribute is in the other record. -/
def subfields : List (String × Value) → List (String × Value) → Bool
  | [], _ => true
  | (k, v) :: rest, fs => ((fs.lookup k).map fun w => equal v w).getD false && subfields rest fs
termination_by structural es => es

end

/-- The value of a key. -/
def find? (key : Value) (entries : List (Value × Value)) : Option Value :=
  (entries.find? fun e => equal e.1 key).map (·.2)

/-- Sets the value of a key; a key that is there keeps its place and its first form. -/
def insert (key value : Value) : List (Value × Value) → List (Value × Value)
  | [] => [(key, value)]
  | (k, v) :: rest =>
    if equal k key then (k, value) :: rest else (k, v) :: insert key value rest

/-- Sets the value of each key in turn. -/
def ofEntries (entries : List (Value × Value)) : List (Value × Value) :=
  entries.foldl (fun es e => insert e.1 e.2 es) []

end Gabarit.Value
