import TagMenu.Command.Basic
import TagMenu.Host

namespace TagMenu.Command

variable {m : Type → Type} [Monad m]

def checkFile (host : Host m) (names : Unicode.NameTable) (path : Path) : m (Option String) := do
  match ← host.loadTags names path with
  | .ok candidates => return some (path.text ++ ": " ++ toString candidates.length ++ " tags\n")
  | .error error =>
    host.report .error error.message
    return none

/-- Reads all files. It is a failure if one of them cannot be read. -/
def check (host : Host m) (names : Unicode.NameTable) (files : List Path) : m Outcome := do
  let lines ← files.mapM (checkFile host names)
  return {
    status := if lines.all (·.isSome) then 0 else 1
    output := String.join (lines.filterMap id) }

end TagMenu.Command
