import Gabarit.Error
import Gabarit.Template.Path

/-!
# Contexts

What the paths of a template are looked up in: the data of a rendering, and the scopes of the loops
around the place, the newest first.

* `Scope`, `Context`: names with values, and the scopes over the data;
* `Context.push`, `Context.pop`, `Context.bind`: the operations on scopes;
* `Context.kept`, `Context.ofData`: the context of a value;
* `Context.get?`, `Context.first?`: the value of a name, and of the first part of a path;
* `Context.resolve`: the value of a path.
-/

namespace Gabarit

/-- Names that a loop binds. -/
abbrev Scope := List (String × Value)

/-- Sets the value of a name in a scope. -/
def Scope.set (name : String) (v : Value) : Scope → Scope
  | [] => [(name, v)]
  | (n, w) :: rest => if n = name then (n, v) :: rest else (n, w) :: Scope.set name v rest

/-- The data of a rendering under the scopes of its loops, the newest first. -/
structure Context where
  data : Value
  scopes : List Scope := []

namespace Context

/-- What a context keeps of a value: nothing stands for an empty mapping, and of a mapping only the entries
are kept. -/
def kept : Value → Value
  | .none => .dict []
  | .defaulting entries _ => .dict entries
  | v => v

/-- The context of a value. -/
def ofData (data : Value) : Context := ⟨kept data, []⟩

/-- A context of the same data without its scopes. -/
def rewrapped (c : Context) : Context := ⟨c.data, []⟩

/-- The number of open scopes. -/
def depth (c : Context) : Nat := c.scopes.length

/-- Opens an empty scope. -/
def push (c : Context) : Context := { c with scopes := [] :: c.scopes }

/-- Closes the newest scope, if there is one. -/
def pop (c : Context) : Context := { c with scopes := c.scopes.tail }

/-- Sets the value of a name in the newest scope. -/
def bind (name : String) (v : Value) (c : Context) : Context :=
  match c.scopes with
  | [] => c
  | scope :: rest => { c with scopes := Scope.set name v scope :: rest }

/-- The value of a name: that of the newest scope which binds it, else what it selects in the data. -/
def get? (c : Context) (name : String) : Option Value :=
  (c.scopes.findSome? (List.lookup name)).or (c.data.lookup (.name name))

/-- The value that the first part of a path selects. No scope binds a name with a surrogate. -/
def first? (c : Context) (part : PathPart) : Option Value :=
  match part.asName with
  | .name s => c.get? s
  | part => c.data.lookup part

/-- The value of a name as an attribute; names of two underscores are none. -/
def attribute? (c : Context) (name : String) : Option Value :=
  if ['_', '_'].isPrefixOf name.toList then none else c.get? name

/-- The value that the parts of a path select, one after the other. -/
def follow (expr : String) (v : Value) : List PathPart → Except Failure Value
  | [] => .ok v
  | part :: rest =>
    match v.lookup part with
    | some w => follow expr w rest
    | none => .error (.error (.undefined expr part))

/-- The value of a path. -/
def resolve (c : Context) (path : FieldPath) : Except Failure Value :=
  match path.parts with
  | [] => .error (.fault .emptyPath)
  | head :: rest =>
    match c.first? head with
    | some v => follow path.expr v rest
    | none => .error (.error (.undefined path.expr head))

end Context

end Gabarit
