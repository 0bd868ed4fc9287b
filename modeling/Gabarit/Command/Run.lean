import Gabarit.Command.Arguments
import Gabarit.Command.Assignment
import Gabarit.Engine.Basic

/-!
# Commands

* `Outcome`: how a command ends, with what it writes;
* `Session`: computations of a command over a disk;
* `saveText`: a text written to a file;
* `Request.run`: what a request does.
-/

namespace Gabarit

/-- How a command ends. -/
inductive Outcome where
  /-- It writes a text, and perhaps a note beside it. -/
  | done (text : String) (note : Option String := none)
  /-- It tells how it is used. -/
  | help
  /-- It is used wrongly. -/
  | misuse
  /-- It fails with a message. -/
  | failed (message : String)
  /-- A fault that it does not report ends it. -/
  | broken (cause : Fault)

/-- The exit code of an outcome. -/
def Outcome.code : Outcome → Nat
  | .done .. | .help => 0
  | .failed _ | .broken _ => 1
  | .misuse => 2

/-- A computation of a command, which can end it early. -/
abbrev Session := EStateM Outcome Disk

namespace Session

/-- Ends the command with a message. -/
def fail {α : Type} (message : String) : Session α := throw (.failed ("Error: " ++ message))

/-- A question to the disk, whose faults are not reported. -/
def ask {α : Type} (question : Disk → Except Fault α) : Session α := do
  match question (← get) with
  | .ok a => return a
  | .error f => throw (.broken f)

/-- A computation of an engine, whose errors are reported. -/
def ofWork {α : Type} (work : Work α) : Session α :=
  work.adaptExcept fun
    | .error e => .failed ("Error: " ++ e.message)
    | .fault f => .broken f

/-- A change of the disk, whose faults are not reported. -/
def ofChange {α : Type} (change : Disk.Change α) : Session α :=
  change.adaptExcept fun f => .broken (.file f)

end Session

/-- A fault that makes a file of settings an invalid one. -/
def isInvalidConfig : Fault → Bool
  | .settings _ | .noSettings | .undecodable _ => true
  | .document f => f.isMalformed || f == .badNumber
  | _ => false

/-- The engine of a file of settings, or of the nearest one. -/
def engineOf (homes : Config.Homes) (path : Option Path) : Session Engine := do
  if let some p := path then
    if !(← Session.ask fun d => (d.exists? p).mapError .file) then
      Session.fail ("Config file not found: " ++ p.text)
  let found ← match path with
    | some p => pure (some p)
    | none => Session.ask (nearestConfig · ⟨.relative, []⟩)
  match found with
  | none => return {}
  | some p =>
    match Config.load homes (← get) p with
    | .ok config => return { config }
    | .error f =>
      if isInvalidConfig f then Session.fail ("Invalid config " ++ p.text) else throw (.broken f)

/-- The data of a file, which holds a mapping or nothing. -/
def dataOf (path : Option Path) : Session (List (Value × Value)) := do
  let some p := path | return []
  if !(← Session.ask fun d => (d.exists? p).mapError .file) then
    Session.fail ("Data file not found: " ++ p.text)
  let bytes ← Session.ask fun d => (d.read p).mapError .file
  let cs ← Session.ask fun _ => Charset.decodeFile (.utf8 false) bytes
  match Yaml.load (String.ofList cs) with
  | .ok .none => return []
  | .ok (.dict entries) => return entries
  | .ok _ => Session.fail ("Data file must contain a mapping: " ++ p.text)
  | .error f =>
    if f.isMalformed then Session.fail ("Invalid data file " ++ p.text)
    else throw (.broken (.document f))

/-- The entries after an assignment. -/
def assign (entries : List (Value × Value)) (text : String) : Session (List (Value × Value)) :=
  match Assignment.parse text with
  | .ok a => return Value.insert (.str a.key) a.value entries
  | .error (.value f) => throw (.broken f)
  | .error _ => throw .misuse

/-- Writes a text to a file, with the directories above it. The file is empty before the text is encoded. -/
def saveText (p : Path) (text : Rendered) : Session Unit := do
  Session.ofChange do
    Disk.makeDirectories p.parent
    Disk.write p []
  match text with
  | .text s => Session.ofChange (Disk.write p (Utf8.encode s.toList))
  | .broken _ => throw (.broken .surrogate)

namespace Request

/-- Renders a template; the text is written to a file only when it is complete. -/
def runRender (homes : Config.Homes) (r : RenderRequest) : Session Outcome := do
  let engine ← engineOf homes r.config
  let data ← r.assignments.foldlM assign (← dataOf r.data)
  let text ← Session.ofWork (engine.render r.name (.dict data) [])
  match r.output with
  | none =>
    match text with
    | .text s => return .done s
    | .broken _ => throw (.broken .surrogate)
  | some p =>
    saveText p text
    return .done "" (some ("Wrote " ++ p.text))

/-- Compiles templates, or all of them, and tells the paths of their artifacts. -/
def runCompile (homes : Config.Homes) (names : List String) (config : Option Path) :
    Session Outcome := do
  let engine ← engineOf homes config
  let paths ← Session.ofWork (if names.isEmpty then engine.compileEach else names.mapM engine.compile)
  return .done (String.join (paths.map fun p => p.text ++ "\n"))

/-- The text that tells the version. -/
def versionText : String := "stencil 0.1.0\n"

/-- What a request does to a disk, and how it ends. -/
def run (homes : Config.Homes) (request : Request) (d : Disk) : Outcome × Disk :=
  let session : Session Outcome := match request with
    | .version => pure (.done versionText)
    | .help => pure .help
    | .render r => runRender homes r
    | .compile names config => runCompile homes names config
  match session d with
  | .ok outcome d | .error outcome d => (outcome, d)

/-- What arguments do to a disk. -/
def runArguments (homes : Config.Homes) (args : List String) (d : Disk) : Outcome × Disk :=
  match parse args with
  | some request => request.run homes d
  | none => (.misuse, d)

end Request

end Gabarit
