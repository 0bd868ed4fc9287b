import Gabarit.Filter.Basic
import Gabarit.Value.Order

/-!
# Registries of filters

* `Registry`: filters by name;
* `Registry.register`, `Registry.find?`, `Registry.names`: the operations;
* `Registry.get`: the filter of a name, or the error that there is none;
* `Registry.check`: a call names a filter and fits its signature.
-/

namespace Gabarit

/-- Filters by name; a name has one filter. -/
structure Registry where
  filters : List (String × Filter)

namespace Registry

/-- No filters. -/
def empty : Registry := ⟨[]⟩

/-- The name that marks unescaped output and cannot be a filter's. -/
def reservedName : String := "none"

/-- Sets the filter of a name. -/
def set (name : String) (f : Filter) : List (String × Filter) → List (String × Filter)
  | [] => [(name, f)]
  | (n, g) :: rest => if n = name then (n, f) :: rest else (n, g) :: set name f rest

/-- Registers a filter, unless its name is reserved. -/
def register (r : Registry) (name : String) (f : Filter) : Except Fault Registry :=
  if name = reservedName then .error .reservedName else .ok ⟨set name f r.filters⟩

/-- The filter of a name. -/
def find? (r : Registry) (name : String) : Option Filter := r.filters.lookup name

/-- The number of filters. -/
def size (r : Registry) : Nat := r.filters.length

/-- The names of the filters in ascending order. -/
def names (r : Registry) : List String :=
  (r.filters.map (·.1)).mergeSort fun a b => Value.compareTexts a b != .gt

/-- The filter of a name, which has to be registered. -/
def get (r : Registry) (name : String) : Except Failure Filter :=
  match r.find? name with
  | some f => .ok f
  | none => .error (.tag name .unknownFilter)

/-- The call names a registered filter, and its arguments with the piped value fit. -/
def check (r : Registry) (call : FilterCall) : Except Failure Unit := do
  let f ← r.get call.name
  match f.signature with
  | none => return
  | some s =>
    let args ← (insertAt call.slot Value.none (call.args.map Scalar.toValue)).mapError .fault
    match s.bind args.length with
    | .ok () => return
    | .error cause => throw (.tag call.name (.badArguments cause))

end Registry

end Gabarit
