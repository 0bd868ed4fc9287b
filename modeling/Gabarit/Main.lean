import Gabarit.Command.Run

/-!
# The command line

The command works on a picture of the files below the current directory, and of the files of settings
above it. What it changed there is written when it has ended.
-/

namespace Gabarit

/-- The time of a file's last change in nanoseconds. -/
def changeTime (m : IO.FS.Metadata) : Int := m.modified.sec * 1000000000 + m.modified.nsec.toNat

/-- A file or a directory with all that it holds. -/
partial def readEntry (place : Place) (e : IO.FS.DirEntry) : IO (List (Place × Entry)) := do
  let here := place ++ [e.fileName]
  let data ← e.path.metadata
  if data.type == .dir then
    let below ← (← e.path.readDir).toList.mapM (readEntry here)
    return (here, .directory (changeTime data)) :: below.flatten
  else if data.type == .file then
    return [(here, .file (← IO.FS.readBinFile e.path).toList (changeTime data))]
  else return []

/-- The files of settings in a directory. -/
def readSettings (place : Place) : IO (List (Place × Entry)) := do
  let files ← configNames.mapM fun name => do
    try
      let bytes ← IO.FS.readBinFile (Path.ofPlace (place ++ [name])).text
      return [(place ++ [name], Entry.file bytes.toList 0)]
    catch _ => return []
  return files.flatten

/-- The picture of the disk. -/
def readDisk : IO Disk := do
  let here ← IO.currentDir
  let place := (Path.ofText here.toString).parts
  let below ← (← here.readDir).toList.mapM (readEntry place)
  let above ← ((List.range place.length).map place.take).mapM readSettings
  let start := Disk.ofCurrent place (2 * Disk.directoryTime)
  return { start with entries := below.flatten ++ above.flatten ++ start.entries }

/-- Writes what was changed in the picture, directories before what they hold. -/
def writeDisk (old new : Disk) : IO Unit := do
  let changed := new.entries.filter fun (place, e) => old.find? place != some e
  for (place, e) in changed.mergeSort fun a b => a.1.length ≤ b.1.length do
    let path := (Path.ofPlace place).text
    match e with
    | .directory _ => IO.FS.createDirAll path
    | .file bytes _ => IO.FS.writeBinFile path ⟨bytes.toArray⟩

/-- The home directory of the current user. -/
def readHomes : IO Config.Homes := do
  match ← IO.getEnv "HOME" with
  | some home => return [("", .ofText home)]
  | none => return []

/-- How the command is used. -/
def usageText : String :=
  "Usage: stencil [--version] [--help] COMMAND\n\n" ++
  "  render NAME [-d FILE] [--set KEY=VALUE]... [-c FILE] [-o FILE] [-v]\n" ++
  "  compile [NAME]... [-c FILE] [-v]\n"

/-- Writes what an outcome tells. -/
def tell : Outcome → IO Unit
  | .done text note => do
    IO.print text
    for line in note do IO.eprintln line
  | .help => IO.print usageText
  | .misuse => IO.eprint usageText
  | .failed message => IO.eprintln message
  | .broken cause => IO.eprintln cause.message

end Gabarit

open Gabarit in
/-- Runs the command line on the files of the current directory. -/
def main (args : List String) : IO UInt32 := do
  let homes ← readHomes
  let disk ← readDisk
  let (outcome, after) := Request.runArguments homes args disk
  writeDisk disk after
  tell outcome
  return outcome.code.toUInt32
