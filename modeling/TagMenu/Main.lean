import TagMenu.Command.Run
import TagMenu.Shell.Program
import TagMenu.Unicode.Name

namespace TagMenu.Main

open Disk (Failure)

def failureOf : IO.Error → Failure
  | .noFileOrDirectory .. => .notFound
  | .permissionDenied .. => .permissionDenied
  | .alreadyExists .. => .alreadyExists
  | .inappropriateType .. => .isADirectory
  | .resourceBusy .. => .directoryNotEmpty
  | _ => .invalidArgument

def attempt {α : Type} (action : IO α) : IO (Except Failure α) := do
  try return .ok (← action) catch error => return .error (failureOf error)

def metadata (path : Path) : IO (Except Failure IO.FS.Metadata) := do
  if path.isEmpty then return .error .notFound
  else attempt ((← IO.currentDir) / path.text).metadata

def read (path : Path) : IO (Except Failure ByteArray) := do
  match ← metadata path with
  | .error failure => return .error failure
  | .ok found =>
    if found.type == .dir then return .error .isADirectory
    else attempt (IO.FS.readBinFile path.text)

def write (path : Path) (content : ByteArray) : IO (Except Failure Unit) :=
  attempt (IO.FS.writeBinFile path.text content)

def isFile (path : Path) : IO Bool := return (← metadata path).toOption.any (·.type == .file)

def exists? (path : Path) : IO Bool := return (← metadata path).toOption.isSome

def modified (path : Path) : IO (Except Failure Disk.Timestamp) := do
  match ← metadata path with
  | .ok found => return .ok ⟨found.modified.sec, found.modified.nsec.toNat⟩
  | .error failure => return .error failure

/-- What is in the directory that names lead to. A name that is no text does not come from here. -/
def entries (path : Path) (names : List FileName) : IO (List (FileName × EntryKind)) := do
  let below := names.map fun name => name.text?.getD ""
  let directory := below.foldl (· / ·) ((← IO.currentDir) / path.text)
  match ← attempt directory.readDir with
  | .error _ => return []
  | .ok found => found.toList.mapM fun entry => do
    match ← attempt entry.path.symlinkMetadata with
    | .ok found =>
      let kind := match found.type with
        | .file => EntryKind.file
        | .dir => EntryKind.directory
        | _ => EntryKind.other
      return (.ofText entry.fileName, kind)
    | .error _ => return (.ofText entry.fileName, EntryKind.other)

def workingDirectory : IO Path := return ⟨(← IO.currentDir).toString⟩

def files : Files IO := { workingDirectory, modified, read, write, exists?, isFile, entries }

def host : Host IO where
  toFiles := files
  run program arguments := Shell.runNamed files program arguments
  note note := IO.eprintln (note.severity.name ++ " " ++ note.logText)

end TagMenu.Main

def main (arguments : List String) : IO UInt32 := do
  let outcome ← TagMenu.Command.run TagMenu.Main.host TagMenu.Unicode.Name.character? arguments
  IO.print outcome.output
  return outcome.status.toUInt32
