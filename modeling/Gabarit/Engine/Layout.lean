import Gabarit.Disk.Glob
import Gabarit.Engine.Config
import Gabarit.Error

/-!
# Places of templates

* `Template.plainName`: a name that stays below the directory of templates;
* `Config.sourceOf`, `Config.artifactOf`: where a template and its artifact are;
* `Config.resolve`: these paths for a template that is there, or for the usual one;
* `Config.templates`: the names of all templates.
-/

namespace Gabarit

/-- The name of a template with slashes between its components. A name that is empty, starts at the root
or climbs up is refused. -/
def plainTemplateName (name : String) : Except Failure String :=
  let plain := String.ofList (name.toList.map fun c => if c = '\\' then '/' else c)
  let path := Path.ofText plain
  if plain = "" ∨ path.isAbsolute ∨ ".." ∈ path.parts then .error (.error (.notFound name []))
  else .ok plain

namespace Config

/-- Where the source of a template is. -/
def sourceOf (c : Config) (name : String) : Except Failure Path := do
  return c.templateDir.child ((← plainTemplateName name) ++ c.extension)

/-- A name in one component: hyphens stand for its slashes. -/
def flatName (name : String) : String :=
  String.ofList (name.toList.map fun ch => if ch = '/' then '-' else ch)

/-- Where the artifact of a template is. -/
def artifactOf (c : Config) (name : String) : Except Failure Path := do
  return c.cacheDir.child (flatName (← plainTemplateName name) ++ c.cacheExtension)

/-- The paths of a template and its artifact. A template that is not there gives way to the usual one. -/
def resolve (c : Config) (d : Disk) (name : String) : Except Failure (Path × Path) := do
  let present (p : Path) : Except Failure Bool := (d.isFile p).mapError fun f => .fault (.file f)
  let source ← c.sourceOf name
  if ← present source then return (source, ← c.artifactOf name)
  let usual ← c.sourceOf c.defaultTemplate
  if ← present usual then return (usual, ← c.artifactOf c.defaultTemplate)
  throw (.error (.notFound name [source, usual]))

/-- The name of a template whose source is at some components below the directory of templates: its path
without the extension. Without an extension nothing is left of it. -/
def nameOf (c : Config) (parts : List String) : String :=
  let text := "/".intercalate parts
  let n := c.extension.length
  if n = 0 then "" else String.ofList (text.toList.take (text.length - n))

/-- One path does not come after another one: their components are compared one by one. -/
def comesFirst : List String → List String → Bool
  | [], _ => true
  | _ :: _, [] => false
  | a :: as, b :: bs => if a = b then comesFirst as bs else decide (a < b)

/-- The names of all templates, by the order of their paths. Files in the directory of artifacts are no
templates. -/
def templates (c : Config) (d : Disk) : Except Fault (List String) := do
  if !(← (d.isDirectory c.templateDir).mapError .file) then return []
  let cache ← (d.resolve c.cacheDir).mapError .file
  let base ← (d.locate c.templateDir).mapError .file
  let found ← d.search base (Path.ofText ("*" ++ c.extension)).parts
  let isSource (parts : List String) : Bool :=
    let place := base ++ parts
    ((d.find? place).any Entry.isFile) && !(cache.isPrefixOf place && cache != place)
  let sources := found.filter fun parts => isSource parts && c.extension.toList.getLast? != some '/'
  return (sources.mergeSort comesFirst).map c.nameOf

end Config

end Gabarit
