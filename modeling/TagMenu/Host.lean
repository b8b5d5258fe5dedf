import TagMenu.Cache.Refresh
import TagMenu.Files

namespace TagMenu

structure ProgramOutput where
  output : ByteArray
  diagnostics : ByteArray
  success : Bool
deriving Inhabited

structure Host (m : Type → Type) extends Files m where
  run : String → List String → m (Except Disk.Failure ProgramOutput)
  note : Note → m Unit

namespace Host

variable {m : Type → Type} [Monad m]

def report (host : Host m) (severity : Severity) (text : String) : m Unit :=
  host.note (.report severity text)

def loadTags (host : Host m) (names : Unicode.NameTable) (path : Path) :
    m (Except TagFile.Error (List Candidate)) := do
  match ← host.read path with
  | .error failure => return .error (.unreadable path failure)
  | .ok content =>
    match TagFile.readOctets names path content with
    | .error error => return .error error
    | .ok candidates =>
      host.report .debug
        ("Parsed " ++ toString candidates.length ++ " tags from " ++ path.text)
      return .ok candidates

def supply (host : Host m) (names : Unicode.NameTable) : Supply m where
  modified := host.modified
  load := host.loadTags names
  note := host.note

end Host

end TagMenu
