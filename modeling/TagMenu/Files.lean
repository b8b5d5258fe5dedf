import TagMenu.Disk.Node
import TagMenu.Path

namespace TagMenu

open Disk (Failure Timestamp)

/-- What an entry of a directory is. A link is not followed. -/
inductive EntryKind where
  | file
  | directory
  | other
deriving DecidableEq, Repr

def EntryKind.ofNode : Disk.Node → EntryKind
  | .file _ _ => file
  | .directory _ _ => directory
  | .link _ => other

structure Files (m : Type → Type) where
  workingDirectory : m Path
  modified : Path → m (Except Failure Timestamp)
  read : Path → m (Except Failure ByteArray)
  write : Path → ByteArray → m (Except Failure Unit)
  exists? : Path → m Bool
  isFile : Path → m Bool
  /-- What is in the directory that names lead to from a path; there is nothing if it cannot be read. -/
  entries : Path → List FileName → m (List (FileName × EntryKind))

end TagMenu
