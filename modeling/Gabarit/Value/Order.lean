import Gabarit.Fault
import Gabarit.Value.Equal

/-!
# Order of values

Numbers, texts, bytes, dates and timestamps have an order, lists and tuples that of their first
different members, and sets that of inclusion. Other values have none.

* `Comparison`: the comparisons;
* `Value.holds`: whether a comparison holds between two values;
* `Value.greatest`: the greatest of some values, the first of equal ones.
-/

namespace Gabarit

/-- A comparison by order. -/
inductive Comparison where
  | less
  | atMost
  | greater
  deriving DecidableEq

namespace Comparison

/-- The sign of a comparison. -/
def sign : Comparison → String
  | .less => "<"
  | .atMost => "<="
  | .greater => ">"

/-- The comparison holds between things of a known order. -/
def ofOrdering : Comparison → Ordering → Bool
  | .less, o => o == .lt
  | .atMost, o => o != .gt
  | .greater, o => o == .gt

end Comparison

namespace Value

/-- The order of two lists by their first different members, shorter lists before longer ones. -/
def compareLists {α : Type} (cmp : α → α → Ordering) : List α → List α → Ordering
  | [], [] => .eq
  | [], _ => .lt
  | _, [] => .gt
  | x :: xs, y :: ys => (cmp x y).then (compareLists cmp xs ys)

/-- Texts are ordered by their code points. -/
def compareTexts (a b : String) : Ordering :=
  compareLists (fun c d => compare c.toNat d.toNat) a.toList b.toList

/-- The order of texts in which surrogates may stand. -/
def comparePoints (a b : List Text.Point) : Ordering :=
  compareLists (fun p q => compare p.code q.code) a b

/-- The order of dates. -/
def compareDates (a b : Date) : Ordering := compare a.dayNumber b.dayNumber

/-- The order of timestamps that both have a clock, or both have none. -/
def compareTimestamps? (a b : Timestamp) : Option Ordering :=
  match a.universalMicros?, b.universalMicros? with
  | some x, some y => some (compare x y)
  | Option.none, Option.none => some (compare a.clockMicros b.clockMicros)
  | _, _ => Option.none

/-- The fault of two values without an order. -/
def unordered (op : Comparison) (a b : Value) : Fault := .unordered op.sign a.typeName b.typeName

/-- Inclusion of sets. -/
def holdsOfSets (op : Comparison) (xs ys : List Value) : Bool :=
  match op with
  | .less => subset xs ys && xs.length < ys.length
  | .atMost => subset xs ys
  | .greater => subset ys xs && ys.length < xs.length

mutual

/-- Whether the comparison holds. -/
def holds (op : Comparison) : Value → Value → Except Fault Bool
  | .list xs, .list ys => holdsOfLists op xs ys
  | .tuple xs, .tuple ys => holdsOfLists op xs ys
  | .set xs, .set ys => .ok (holdsOfSets op xs ys)
  | .str a, .str b => .ok (op.ofOrdering (compareTexts a b))
  | .date a, .date b => .ok (op.ofOrdering (compareDates a b))
  | .date _, .timestamp _ => .error .mixedDates
  | .timestamp _, .date _ => .error .mixedDates
  | .timestamp a, .timestamp b =>
    match compareTimestamps? a b with
    | some o => .ok (op.ofOrdering o)
    | Option.none => .error .mixedClocks
  | v, w =>
    match v.numeric?, w.numeric? with
    | some a, some b => .ok (((compareNumbers? a b).map op.ofOrdering).getD false)
    | _, _ =>
      match v.bytes?, w.bytes? with
      | some a, some b => .ok (op.ofOrdering (compareLists (fun x y => compare x.toNat y.toNat) a b))
      | _, _ =>
        match v.points?, w.points? with
        | some a, some b => .ok (op.ofOrdering (comparePoints a b))
        | _, _ => .error (unordered op v w)
termination_by structural v => v

/-- Whether the comparison holds between the first different members. -/
def holdsOfLists (op : Comparison) : List Value → List Value → Except Fault Bool
  | [], ys => .ok (op.ofOrdering (if ys.isEmpty then .eq else .lt))
  | _ :: _, [] => .ok (op.ofOrdering .gt)
  | x :: xs, y :: ys => if equal x y then holdsOfLists op xs ys else holds op x y
termination_by structural xs => xs

end

/-- The greatest of `best` and the values after it, the first of equal ones. -/
def greatest (best : Value) : List Value → Except Fault Value
  | [] => .ok best
  | v :: rest => do
    if ← holds .greater v best then greatest v rest else greatest best rest

end Value

end Gabarit
