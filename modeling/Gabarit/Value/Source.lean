import Gabarit.Fault
import Gabarit.Value.Basic

/-!
# Sources of items

Iterating a value gives a source, from which items are taken one by one. A one-shot iterator is a name
for a list of items in a store, so that every source that reads it sees what the others have left.

* `Cursors`: the store of one-shot iterators;
* `Source`, `Source.next`: what is still to be taken, and the next item;
* `Source.bound`: no more items than this can be taken;
* `Value.source`: the source of a value's items.
-/

namespace Gabarit

/-- What is left of each one-shot iterator. -/
abbrev Cursors := List (List Value)

/-- Items still to be taken. -/
inductive Source where
  /-- Items that are known. -/
  | items (xs : List Value)
  /-- `count` numbers from `start` on, `step` apart. -/
  | numbers (start step : Int) (count : Nat)
  /-- What is left of a one-shot iterator. -/
  | cursor (id : Nat)
  /-- The first item cannot be read. -/
  | broken (fault : Fault)

namespace Source

/-- The number of items that can be taken. -/
def bound (cursors : Cursors) : Source → Nat
  | .items xs => xs.length
  | .numbers _ _ count => count
  | .cursor id => (cursors[id]?.getD []).length
  | .broken _ => 1

/-- The next item with the source of those after it and the iterators left, if there is one. -/
def next (cursors : Cursors) : Source → Except Fault (Option (Value × Source × Cursors))
  | .items [] => .ok none
  | .items (x :: xs) => .ok (some (x, .items xs, cursors))
  | .numbers _ _ 0 => .ok none
  | .numbers start step (n + 1) => .ok (some (.int start, .numbers (start + step) step n, cursors))
  | .cursor id =>
    match cursors[id]?.getD [] with
    | [] => .ok none
    | x :: xs => .ok (some (x, .cursor id, cursors.set id xs))
  | .broken fault => .error fault


end Source

/-- The source of a value's items: the keys of a mapping, the characters of a text, the numbers of
bytes. A keyed value is asked for its element zero, which it does not have. -/
def Value.source : Value → Except Fault Source
  | .list xs | .tuple xs | .set xs => .ok (.items xs)
  | .dict entries | .defaulting entries _ => .ok (.items (entries.map (·.1)))
  | .str s => .ok (.items (s.toList.map fun c => .str (String.ofList [c])))
  | .broken t => .ok (.items (t.1.map fun p => .ofPoints [p]))
  | .bytes bs | .bytearray bs => .ok (.items (bs.map fun b => .int b.toNat))
  | .range start stop step => .ok (.numbers start step (rangeLength start stop step))
  | .cursor id => .ok (.cursor id)
  | .keyed _ => .ok (.broken (.noKey "0"))
  | v => .error (.notIterable v.typeName)

end Gabarit
