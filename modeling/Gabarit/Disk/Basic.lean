import Gabarit.Disk.Path
import Gabarit.Fault

/-!
# Disks

* `Place`, `Entry`, `Disk`: files and directories by their places, with a clock for what is written;
* `Disk.locate`: the place that a path leads to;
* `Disk.stat`, `Disk.read`, `Disk.isFile`, `Disk.isDirectory`, `Disk.exists`: what is found there;
* `Disk.resolve`: a path as an absolute one without `..`;
* `Disk.children`: what a directory holds.
-/

namespace Gabarit

/-- A place on a disk: the components of an absolute path without `..`. -/
abbrev Place := List String

/-- What stands at a place, with the time of its last change in nanoseconds. -/
inductive Entry where
  | file (bytes : List UInt8) (time : Int)
  | directory (time : Int)
  deriving DecidableEq, Repr

namespace Entry

/-- The time of the last change. -/
def time : Entry → Int
  | .file _ t | .directory t => t

/-- The entry is a file. -/
def isFile : Entry → Bool
  | .file .. => true
  | .directory _ => false

/-- The entry is a directory. -/
def isDirectory (e : Entry) : Bool := !e.isFile

end Entry

/-- A disk: its entries, the current directory, and the time that files get when they are written. -/
structure Disk where
  entries : List (Place × Entry)
  current : Place
  now : Int

namespace Disk

/-- Directories are stamped by a clock of their own, which is ahead of that of files. -/
def directoryTime : Int := Nat.pow 2 61

/-- A disk with nothing but the current directory and those above it. -/
def ofCurrent (current : Place) (now : Int) : Disk :=
  let above := (List.range current.length).map fun n => (current.take (n + 1), .directory directoryTime)
  ⟨above, current, now⟩

/-- What stands at a place. -/
def find? (d : Disk) (place : Place) : Option Entry :=
  if place = [] then some (.directory directoryTime) else d.entries.lookup place

/-- The disk with an entry at a place. -/
def put (d : Disk) (place : Place) (e : Entry) : Disk :=
  { d with entries := (place, e) :: d.entries.filter (·.1 != place) }

/-- The disk without the entries at a place and below it. -/
def erase (d : Disk) (place : Place) : Disk :=
  { d with entries := d.entries.filter fun e => !place.isPrefixOf e.1 }

/-- Names are no longer than this, in bytes. -/
def nameLimit : Nat := 255

/-- Paths are shorter than this, in bytes. -/
def pathLimit : Nat := 4096

/-- Follows components from a place. All but the last one have to lead to directories. -/
def follow (d : Disk) : Place → List String → Except FileFault Place
  | here, [] => .ok here
  | here, name :: rest =>
    match d.find? here with
    | none => .error .notFound
    | some (.file ..) => .error .notDirectory
    | some (.directory _) =>
      if name = ".." then follow d here.dropLast rest
      else if nameLimit < name.utf8ByteSize then .error .nameTooLong
      else follow d (here ++ [name]) rest

/-- Where a path starts. -/
def start (d : Disk) (p : Path) : Place := if p.isAbsolute then [] else d.current

/-- A component of the path has a NUL. -/
def hasNul (p : Path) : Bool := p.parts.any fun name => name.toList.contains '\x00'

/-- The place that a path leads to, at which nothing need stand. -/
def locate (d : Disk) (p : Path) : Except FileFault Place :=
  if hasNul p then .error .nulInName
  else if pathLimit ≤ p.text.utf8ByteSize then .error .nameTooLong
  else d.follow (d.start p) p.parts

/-- What a path leads to. -/
def stat (d : Disk) (p : Path) : Except FileFault Entry := do
  match d.find? (← d.locate p) with
  | some e => return e
  | none => throw .notFound

/-- The bytes of a file. -/
def read (d : Disk) (p : Path) : Except FileFault (List UInt8) := do
  match ← d.stat p with
  | .file bytes _ => return bytes
  | .directory _ => throw .isDirectory

/-- A fault that tells that nothing is there. -/
def isAbsence : FileFault → Bool
  | .notFound | .notDirectory | .nulInName => true
  | _ => false

/-- An entry of a kind is at a path. -/
def holds (kind : Entry → Bool) (d : Disk) (p : Path) : Except FileFault Bool :=
  match d.stat p with
  | .ok e => .ok (kind e)
  | .error f => if isAbsence f then .ok false else .error f

/-- A file is at a path. -/
def isFile : Disk → Path → Except FileFault Bool := holds Entry.isFile

/-- A directory is at a path. -/
def isDirectory : Disk → Path → Except FileFault Bool := holds Entry.isDirectory

/-- Something is at a path. -/
def exists? : Disk → Path → Except FileFault Bool := holds fun _ => true

/-- Components without `..`: each takes the one before it away, if there is one. -/
def climb (here : Place) : List String → Place
  | [] => here
  | name :: rest => climb (if name = ".." then here.dropLast else here ++ [name]) rest

/-- The place of a path, whatever is there. -/
def resolve (d : Disk) (p : Path) : Except FileFault Place :=
  if hasNul p then .error .nulInName else .ok (climb (d.start p) p.parts)

/-- The names in a directory. -/
def children (d : Disk) (place : Place) : List String :=
  d.entries.filterMap fun (q, _) => if q ≠ [] ∧ q.dropLast = place then q.getLast? else none

/-- The directories at and below a place. -/
def directoriesFrom (d : Disk) (place : Place) : List Place :=
  place :: (d.entries.filter fun (q, e) => e.isDirectory && q != place && place.isPrefixOf q).map (·.1)

end Disk

/-- The path of a place. -/
def Path.ofPlace (place : Place) : Path := ⟨.root, place⟩

end Gabarit
