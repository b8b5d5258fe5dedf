import TagMenu.Cache.Index
import TagMenu.Cache.Refresh
import TagMenu.Settings.Basic
import TagMenu.Settings.Read

namespace TagMenu

inductive CompletionError where
  | settings (error : Settings.Error)
  | cache (error : Cache.Error)
  | keyword (error : Keyword.Error)

def CompletionError.message : CompletionError → String
  | settings error => "Configuration error: " ++ error.message
  | cache error => "Cache error: " ++ error.message
  | keyword error => "Query error: " ++ error.message

/-- What a source needs of its surroundings: what its cache needs, and a way to find the tag files
    that are relevant for a file. -/
structure Surroundings (m : Type → Type) extends Supply m where
  discover : Option Path → m (List Path)

structure Source where
  settings : Settings
  cache : Cache

namespace Source

structure Event where
  file : Option Path := none
  sources : List String := []
deriving DecidableEq, Repr

structure Request where
  file : Option Path := none
  pattern : String := ""
deriving DecidableEq, Repr

def handles (source : Source) (filetype : String) : Bool :=
  source.settings.filetypes.contains filetype

variable {m : Type → Type} [Monad m]

def progress (surroundings : Surroundings m) (text : String) : m Unit :=
  surroundings.note (.progress text)

def start (surroundings : Surroundings m) (settings : Settings) : m Source := do
  progress surroundings "initialised"
  return { settings, cache := { policy := settings.eviction } }

def tellLoaded (surroundings : Surroundings m) (report : Cache.Report) : m Unit :=
  report.loaded.forM fun (path, count) =>
    progress surroundings (path.text ++ ", with " ++ toString count ++ " tags")

/-- Brings the relevant tag files into the cache. What was loaded before a failure stays there. -/
def fill (surroundings : Surroundings m) (file : Option Path) (source : Source) :
    m (Except CompletionError Cache.Report × Source) := do
  let paths ← surroundings.discover file
  Cache.debug surroundings.toSupply (toString paths.length ++ " relevant tag files")
  match ← source.cache.refresh surroundings.toSupply paths with
  | (.error error, cache) =>
    tellLoaded surroundings error.progress
    return (.error (.cache error), { source with cache })
  | (.ok report, cache) =>
    tellLoaded surroundings report
    progress surroundings "Cache made"
    return (.ok report, { source with cache })

def conflicts (source : Source) (event : Event) : List String :=
  source.settings.conflicting.filter event.sources.contains

def handle (surroundings : Surroundings m) (event : Event) (source : Source) :
    m (Except CompletionError Cache.Report × Source) := do
  (source.conflicts event).forM fun name =>
    progress surroundings ("Warning: source '" ++ name ++ "' and '" ++ source.settings.name ++
      "' probably should not mix.")
  source.fill surroundings event.file

def query (source : Source) (pattern : String) : Except CompletionError (List Candidate) :=
  match Keyword.compile pattern with
  | .error error => .error (.keyword error)
  | .ok keyword => .ok (source.cache.snapshot.gather keyword)

def gather (surroundings : Surroundings m) (request : Request) (source : Source) :
    m (Except CompletionError (List Candidate) × Source) := do
  if source.cache.isEmpty then
    match ← source.fill surroundings request.file with
    | (.error error, source) => return (.error error, source)
    | (.ok _, source) => return (source.query request.pattern, source)
  else return (source.query request.pattern, source)

end Source

end TagMenu
