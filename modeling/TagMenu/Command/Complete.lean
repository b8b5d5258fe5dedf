import TagMenu.Command.Output
import TagMenu.Settings.File
import TagMenu.Source.Discovery

namespace TagMenu.Command

variable {m : Type → Type} [Monad m]

def withTags (directory : Path) (tags : List Path) (settings : Settings) :
    Except Failure Settings :=
  match tags.mapM (·.absolute? directory) with
  | some tags => .ok { settings with tagFiles := settings.tagFiles ++ tags }
  | none => .error .emptyPath

def absoluteFile (directory : Path) : Option Path → Except Failure (Option Path)
  | none => .ok none
  | some file =>
    match file.absolute? directory with
    | some file => .ok (some file)
    | none => .error .emptyPath

def surroundings (host : Host m) (names : Unicode.NameTable) (settings : Settings) :
    Surroundings m where
  toSupply := host.supply names
  discover := (Lookup.ofSettings settings).find host

def gather (host : Host m) (names : Unicode.NameTable) (settings : Settings)
    (request : Source.Request) : m (Except Failure (List Candidate)) := do
  let surroundings := surroundings host names settings
  let source ← Source.start surroundings settings
  match ← source.gather surroundings request with
  | (.error error, _) => return .error (.completion error)
  | (.ok candidates, _) => return .ok candidates

def complete (host : Host m) (names : Unicode.NameTable) (settings : Settings)
    (completion : Completion) : m (Except Failure Outcome) := do
  let directory ← host.workingDirectory
  match withTags directory completion.tags settings with
  | .error failure => return .error failure
  | .ok settings =>
    let shown := Text.Shown.texts (settings.tagFiles.map (·.text))
    host.report .debug ("Tag files: " ++ shown.render)
    match absoluteFile directory completion.file with
    | .error failure => return .error failure
    | .ok file =>
      match ← gather host names settings ⟨file, completion.pattern⟩ with
      | .error failure => return .error failure
      | .ok candidates =>
        return .ok {
          status := if completion.failOnEmpty && candidates.isEmpty then 1 else 0
          output := completion.format.render candidates }

def loadSettings (host : Host m) (config : Option Path) : m (Except Settings.Error Settings) := do
  match config with
  | some path => Settings.ofFile host path
  | none =>
    match ← Settings.discover host ⟨"."⟩ with
    | some path =>
      host.report .information ("Using config: " ++ path.text)
      Settings.ofFile host path
    | none =>
      host.report .information "No config file found, using defaults"
      return .ok {}

end TagMenu.Command
