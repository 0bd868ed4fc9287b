import Gabarit.Disk.Basic
import Gabarit.Text.Quoted

/-!
# Changing a disk

* `Disk.Change`: computations over a disk that can fail;
* `Disk.makeDirectory`, `Disk.makeDirectories`, `Disk.write`: directories and files;
* `Disk.replace`: writing a file so that the old content is there until the new one is complete;
* `Disk.remove`: removing an entry.
-/

namespace Gabarit.Disk

/-- A computation over a disk that can fail; what was changed before stays. -/
abbrev Change := EStateM FileFault Disk

/-- A question to the disk. -/
def ask {α : Type} (question : Disk → Except FileFault α) : Change α := do
  match question (← get) with
  | .ok a => return a
  | .error f => throw f

/-- Puts an entry at a place. -/
def putAt (place : Place) (e : Entry) : Change Unit := modify (·.put place e)

/-- Makes a directory, where nothing may be. -/
def makeDirectory (p : Path) : Change Unit := do
  let place ← ask (·.locate p)
  if ((← get).find? place).isSome then throw .exists
  putAt place (.directory directoryTime)

/-- Makes a directory in one that is there, if nothing is in its place. -/
def ensureDirectory (p : Path) : Change Unit := do
  try makeDirectory p
  catch f =>
    if f = .notFound ∨ f = .nulInName then throw f
    if !(← ask (·.isDirectory p)) then throw f

/-- Makes a directory with those above it; the components are those of its path from the last one on. -/
def makeFrom (anchor : Anchor) : List String → Change Unit
  | [] => ensureDirectory ⟨anchor, []⟩
  | name :: above => do
    let p : Path := ⟨anchor, (name :: above).reverse⟩
    try ensureDirectory p
    catch f =>
      if f ≠ .notFound then throw f
      makeFrom anchor above
      ensureDirectory p

/-- Makes a directory with those above it. -/
def makeDirectories (p : Path) : Change Unit := makeFrom p.anchor p.parts.reverse

/-- Writes a file. -/
def write (p : Path) (bytes : List UInt8) : Change Unit := do
  let place ← ask (·.locate p)
  if let some (.directory _) := (← get).find? place then throw .isDirectory
  putAt place (.file bytes (← get).now)

/-- The `k`-th name for the time in which a file is written. -/
def temporaryName (name : String) (k : Nat) : String :=
  let digits := Text.numeral k
  "." ++ name ++ "." ++ String.ofList (List.replicate (8 - digits.length) '0') ++ digits

/-- The first such name that is not taken in a directory. -/
def freshName (d : Disk) (directory : Path) (name : String) : String :=
  let taken (k : Nat) : Bool := match d.stat (directory.child (temporaryName name k)) with
    | .ok _ => true
    | .error _ => false
  temporaryName name (((List.range (d.entries.length + 1)).find? fun k => !taken k).getD 0)

/-- Gives a file another place, instead of a file that may be there. -/
def rename (source target : Path) : Change Unit := do
  if target.parts.isEmpty || target.name == ".." then throw .busy
  let old ← ask (·.locate source)
  let new ← ask (·.locate target)
  if let some (.directory _) := (← get).find? new then throw .isDirectory
  match (← get).find? old with
  | some e => modify fun d => (d.erase old).put new e
  | none => throw .notFound

/-- Removes an entry with all that is below it. -/
def remove (p : Path) : Change Unit := do
  let place ← ask (·.locate p)
  if ((← get).find? place).isNone then throw .notFound
  modify (·.erase place)

/-- Writes a file beside its place, and puts it there when it is complete. The directories above are made,
and a failure leaves no file behind. -/
def replace (p : Path) (bytes : List UInt8) : Change Unit := do
  makeDirectories p.parent
  let temporary := p.parent.child (freshName (← get) p.parent p.name)
  write temporary bytes
  try rename temporary p
  catch f =>
    remove temporary
    throw f

end Gabarit.Disk
