import TagMenu.Host
import TagMenu.Settings.Read
import TagMenu.Text.Utf8

namespace TagMenu.Settings

def fileName : Path := ⟨".tagcomplete.jsonc"⟩

/-- The names under which a directory may hold settings. The first that is there counts. -/
def fileNames : List Path := [fileName, ⟨".tagcomplete.json"⟩]

/-- The settings in a file with this content. Relative paths of tag files start from the directory
    that the file is in. -/
def ofContent (path : Path) (content : ByteArray) : Except Error Settings := do
  match Text.readStrict? content with
  | none => throw (.unreadable .notText)
  | some text => return { ← ofText text with base := path.parent? }

variable {m : Type → Type} [Monad m]

def ofFile (host : Host m) (path : Path) : m (Except Error Settings) := do
  match ← host.read path with
  | .error failure => return .error (.unreadable failure)
  | .ok content => return ofContent path content

def firstFile? (host : Host m) : List Path → m (Option Path)
  | [] => return none
  | path :: rest => do
    if ← host.isFile path then return some path else firstFile? host rest

def discover (host : Host m) (directory : Path) : m (Option Path) :=
  firstFile? host (fileNames.map directory.join)

end TagMenu.Settings
