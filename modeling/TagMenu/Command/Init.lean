import TagMenu.Command.Basic
import TagMenu.Settings.File

namespace TagMenu.Command

def searchDepth : Nat := 3

/-- A name that is no text is never hidden. -/
def isHidden (name : FileName) : Bool := name.text?.any (·.startsWith ".")

def isTagFile (name : FileName) : Bool :=
  name == .ofText "tags" || name.extension? == some (.ofText "tags")

variable {m : Type → Type} [Monad m]

/-- The tag files at most so many steps below where names lead from a directory. Nothing hidden is looked at, and links
    are not followed. -/
def tagFilesBelow (host : Host m) (directory : Path) : Nat → List FileName → m (List (List FileName))
  | 0, _ => return []
  | depth + 1, names => do
    let entries ← host.entries directory names
    let found ← entries.mapM fun (name, kind) => do
      if isHidden name then return []
      let names := names ++ [name]
      match kind with
      | .file => return if isTagFile name then [names] else []
      | .directory => tagFilesBelow host directory depth names
      | .other => return []
    return found.flatten

def findTagFiles (host : Host m) (directory : Path) : m (List (List FileName)) :=
  FileName.sort <$> tagFilesBelow host directory searchDepth []

def pathOf? (names : List FileName) : Option Path := do
  return ⟨"/".intercalate (← names.mapM (·.text?))⟩

def settingsText (tagFiles : List Path) : String :=
  ({ tagFiles } : Settings).toJson.pretty ++ "\n"

/-- Writes new settings to the working directory, over others only if `force`. -/
def init (host : Host m) (force : Bool) : m (Except Failure Outcome) := do
  let path := Settings.fileName
  if (← host.exists? path) && !force then return .error (.settingsExist path)
  let found ← findTagFiles host ⟨"."⟩
  if found.isEmpty then
    host.report .warning "No tag files found; add them to tagFiles by hand"
  match found.mapM pathOf? with
  | none => return .error .notText
  | some tagFiles =>
    match ← host.write path (settingsText tagFiles).toUTF8 with
    | .error failure => return .error (.unwritable failure)
    | .ok () =>
      host.report .information ("Created " ++ path.text)
      return .ok { status := 0 }

end TagMenu.Command
