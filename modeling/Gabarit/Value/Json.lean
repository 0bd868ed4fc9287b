import Gabarit.Value.Order
import Gabarit.Value.Text

/-!
# JSON text of values

* `jsonString`: a text between double quotes, in ASCII;
* `sortEntries`: the entries of a mapping in the order of their keys;
* `Value.json`: the JSON text of a value; a value that JSON has no form for is written as its text.
-/

namespace Gabarit

/-- A code unit as an escape. -/
def jsonUnit (n : Nat) : List Char := '\\' :: 'u' :: Text.hexPadded 4 n

/-- A character of a JSON text in ASCII; one beyond the first plane is a pair of units. -/
def jsonChar (c : Char) : List Char :=
  if c = '"' ∨ c = '\\' then ['\\', c]
  else if c = '\n' then ['\\', 'n']
  else if c = '\r' then ['\\', 'r']
  else if c = '\t' then ['\\', 't']
  else if c = '\x0c' then ['\\', 'f']
  else if c = '\x08' then ['\\', 'b']
  else if 32 ≤ c.toNat ∧ c.toNat < 127 then [c]
  else if c.toNat < 0x10000 then jsonUnit c.toNat
  else
    let n := c.toNat - 0x10000
    jsonUnit (0xD800 + n / 0x400) ++ jsonUnit (0xDC00 + n % 0x400)

/-- A code point of a JSON text in ASCII. -/
def jsonPoint : Text.Point → List Char
  | .char c => jsonChar c
  | .surrogate n => jsonUnit (Text.Point.surrogate n).code

/-- Code points as a JSON string. -/
def jsonPoints (ps : List Text.Point) : String :=
  String.ofList ('"' :: (ps.flatMap jsonPoint ++ ['"']))

/-- A text as a JSON string. -/
def jsonString (s : String) : String := jsonPoints (s.toList.map .char)

/-- A floating-point number in JSON, with names for those that are no decimals. -/
def jsonFloat (x : Binary64) : String :=
  if x.isNaN then "NaN"
  else if x.isInfinite then (if x.isNegative then "-Infinity" else "Infinity")
  else floatText x

namespace Value

variable {α : Type}

/-- The order of two entries is that of their keys, which are different. -/
def entryLess (a b : Value × α) : Except Fault Bool :=
  if equal a.1 b.1 then .ok false else holds .less a.1 b.1

/-- The length of the run at the start that does not descend, after the entry `last`. -/
def risingRun (last : Value × α) : List (Value × α) → Except Fault Nat
  | [] => .ok 0
  | e :: rest => do if ← entryLess e last then return 0 else return (← risingRun e rest) + 1

/-- The length of the run at the start that descends, after the entry `last`. -/
def fallingRun (last : Value × α) : List (Value × α) → Except Fault Nat
  | [] => .ok 0
  | e :: rest => do if ← entryLess e last then return (← fallingRun e rest) + 1 else return 0

/-- The place of an entry among sorted ones, after its equals: the middle one of those between `low`
and `high` is looked at first. -/
def insertionPlace (e : Value × α) (sorted : Array (Value × α)) : Nat → Nat → Nat → Except Fault Nat
  | 0, low, _ => .ok low
  | fuel + 1, low, high =>
    if low < high then
      let mid := low + (high - low) / 2
      match sorted[mid]? with
      | Option.none => .ok low
      | some m => do
        if ← entryLess e m then insertionPlace e sorted fuel low mid
        else insertionPlace e sorted fuel (mid + 1) high
    else .ok low

/-- Puts each entry into its place among the sorted ones. -/
def insertEntries (sorted : List (Value × α)) : List (Value × α) → Except Fault (List (Value × α))
  | [] => .ok sorted
  | e :: rest => do
    let place ← insertionPlace e sorted.toArray sorted.length 0 sorted.length
    insertEntries (sorted.take place ++ e :: sorted.drop place) rest

/-- The entries in the order of their keys. The run at the start is taken as it is, or reversed, and
the others are inserted; the first two keys found without an order are the fault. -/
def sortEntries : List (Value × α) → Except Fault (List (Value × α))
  | [] => .ok []
  | [e] => .ok [e]
  | e :: e' :: rest => do
    if ← entryLess e' e then
      let n ← fallingRun e' rest
      insertEntries ((e :: e' :: rest.take n).reverse) (rest.drop n)
    else
      let n ← risingRun e' rest
      insertEntries (e :: e' :: rest.take n) (rest.drop n)

/-- A key of a JSON object, as a JSON string. -/
def jsonKey : Value → Except Fault String
  | .str s => .ok (jsonString s)
  | .broken t => .ok (jsonPoints t.1)
  | .float x => .ok (jsonString (jsonFloat x))
  | .bool b => .ok (jsonString (if b then "true" else "false"))
  | .none => .ok (jsonString "null")
  | .int n => (intText n).map jsonString
  | k => .error (.jsonKey k.typeName)

/-- The members of a JSON object, from keys and the texts of their values. -/
def jsonMembers : List (Value × Except Fault String) → Except Fault (List String)
  | [] => .ok []
  | (k, text) :: rest => do
    let key ← jsonKey k
    let t ← text
    return (key ++ ": " ++ t) :: (← jsonMembers rest)

mutual

/-- The JSON text of a value. -/
def json : Value → Except Fault String
  | .none => .ok "null"
  | .bool b => .ok (if b then "true" else "false")
  | .int n => intText n
  | .float x => .ok (jsonFloat x)
  | .str s => .ok (jsonString s)
  | .broken t => .ok (jsonPoints t.1)
  | .list xs => (jsonList xs).map (bracketed "[" "]")
  | .tuple xs => (jsonList xs).map (bracketed "[" "]")
  | .dict entries | .defaulting entries _ => do
    let sorted ← sortEntries (jsonEntries entries)
    return bracketed "\x7b" "\x7d" (← jsonMembers sorted)
  | v => v.text.map jsonString
termination_by structural v => v

/-- The JSON texts of the members of a collection. -/
def jsonList : List Value → Except Fault (List String)
  | [] => .ok []
  | x :: xs => do
    let s ← json x
    return s :: (← jsonList xs)
termination_by structural xs => xs

/-- The keys of a mapping with the JSON texts of their values. -/
def jsonEntries : List (Value × Value) → List (Value × Except Fault String)
  | [] => []
  | (k, v) :: rest => (k, json v) :: jsonEntries rest
termination_by structural es => es

end

end Value

end Gabarit
