import TagMenu.Source.Tagger

namespace TagMenu

/-- The tag files that are configured, those of included sources, and those that a tagger names. -/
structure Lookup where
  tagFiles : List Path
  included : Option (List Path) := none
  tagger : Option Tagger := none
deriving DecidableEq, Repr

inductive Discovery where
  | fixed (paths : List Path)
  /-- The tag file next to a file, with its name but for the extension. -/
  | sibling
  | configured (lookup : Lookup)
deriving DecidableEq, Repr

namespace Lookup

def ofSettings (settings : Settings) : Lookup :=
  { tagFiles := settings.resolved, tagger := settings.tagger }

def shown (lookup : Lookup) : Text.Shown :=
  .record "ConfiguredDiscovery" [
    ("tag_files", .texts (lookup.tagFiles.map (·.text))),
    ("include", .optional (lookup.included.map fun _ => .text "<IncludeTagFiles>")),
    ("tagger", .optional (lookup.tagger.map (·.shown "ExternalTagger")))]

variable {m : Type → Type} [Monad m]

/-- The files that the tagger names; it is asked only if there is a file to ask about. -/
def taggerFiles (host : Host m) (lookup : Lookup) (file : Option Path) : m (List Path) :=
  match lookup.tagger, file with
  | none, _ => return []
  | some tagger, some file => tagger.tagFiles host file
  | some tagger, none => do
    host.report .debug ("No current file, skipping tagger " ++ tagger.program)
    return []

def find (host : Host m) (lookup : Lookup) (file : Option Path) : m (List Path) := do
  let tagged ← lookup.taggerFiles host file
  let directory ← host.workingDirectory
  return (lookup.tagFiles ++ lookup.included.getD [] ++ tagged).map (·.absolute directory)

end Lookup

namespace Discovery

def shown : Discovery → Text.Shown
  | fixed paths => .record "StaticTagFiles" [("paths", .texts (paths.map (·.text)))]
  | sibling => .word "Sibling"
  | configured lookup => lookup.shown

variable {m : Type → Type} [Monad m]

def find (host : Host m) (discovery : Discovery) (file : Option Path) : m (List Path) :=
  match discovery with
  | fixed paths => return paths
  | sibling => return (file.map (·.withExtension "tags")).toList
  | configured lookup => lookup.find host file

end Discovery

end TagMenu
