import Gabarit.Artifact.Reader
import Gabarit.Artifact.Writer
import Gabarit.Disk.Write
import Gabarit.Engine.Layout
import Gabarit.Render.Renderer

/-!
# Sources and artifacts on a disk

* `Work`: computations of an engine over a disk;
* `needsCompiling`: an artifact has to be made again;
* `sourceText`: the text of a template;
* `loadArtifact`, `storeArtifact`: the program of an artifact, and the artifact of a program.
-/

namespace Gabarit

/-- A computation over a disk that can fail; what was changed before stays. -/
abbrev Work := EStateM Failure Disk

namespace Work

/-- A result that hangs on the disk. -/
def ofExcept {α : Type} (r : Except Failure α) : Work α :=
  match r with
  | .ok a => pure a
  | .error f => throw f

/-- A question to the disk. -/
def ask {α : Type} (question : Disk → Except Failure α) : Work α := do ofExcept (question (← get))

end Work

/-- A fault of the file system as an error of the engine. A name that it cannot be asked about is none. -/
def fileFailure (report : String → Error) (f : FileFault) : Failure :=
  if f = .nulInName then .fault (.file f) else .error (report f.message)

/-- The artifact is missing, or older than its source. -/
def needsCompiling (d : Disk) (source cache : Path) : Except Failure Bool :=
  match d.stat cache with
  | .error .nulInName => .error (.fault (.file .nulInName))
  | .error _ => .ok true
  | .ok artifact =>
    match d.stat source with
    | .ok template => .ok (artifact.time < template.time)
    | .error f => .error (fileFailure (.unreadable source) f)

/-- The text of a template. -/
def sourceText (d : Disk) (charset : String) (source : Path) : Except Failure String := do
  let bytes ← (d.read source).mapError (fileFailure (.unreadable source))
  match Charset.ofName? charset with
  | none | some .transform => throw (.fault (.unknownCharset charset))
  | some c =>
    match c.decodeFile bytes with
    | .ok cs => return String.ofList cs
    | .error (.undecodable reason) => throw (.error (.unreadable source reason))
    | .error f => throw (.fault f)

/-- A fault of an artifact's content. Undecodable texts and too deep nesting are not caught. -/
def contentFailure (cache : Path) : ArtifactFault → Failure
  | .notJson | .wrongShape => .error (.badArtifact cache .content)
  | f => .fault (.artifact f)

/-- The program of an artifact, of the right version and with blocks that pair up. -/
def loadArtifact (d : Disk) (cache : Path) : Except Failure Program := do
  let problem (q : ArtifactProblem) : Failure := .error (.badArtifact cache q)
  let bytes ← (d.read cache).mapError fun f =>
    if f = .nulInName then .fault (.file f) else problem (.file f)
  let p ← (Program.decode bytes).mapError (contentFailure cache)
  if p.version ≠ layoutVersion then throw (problem (.version p.version layoutVersion))
  match p.problem? with
  | some q => throw (problem q)
  | none => return p

/-- Writes the artifact of a program. -/
def storeArtifact (cache : Path) (p : Program) : Work Unit := do
  let text ← Work.ofExcept (p.encode.mapError .fault)
  (Disk.replace cache (Utf8.encode text.toList)).adaptExcept (fileFailure (.unwritable cache))

end Gabarit
