import TagMenu.Cache.Basic
import TagMenu.Note

namespace TagMenu

open Disk (Timestamp)

structure Supply (m : Type → Type) where
  modified : Path → m (Except Disk.Failure Timestamp)
  load : Path → m (Except TagFile.Error (List Candidate))
  note : Note → m Unit

namespace Cache

structure Report where
  loaded : List (Path × Nat) := []
  unchanged : Nat := 0
  skipped : List Path := []
  evicted : List Path := []
deriving DecidableEq, Repr, Inhabited

def Report.summary (report : Report) : String :=
  "Refreshed tag cache: " ++ toString report.loaded.length ++ " loaded, " ++
    toString report.unchanged ++ " unchanged, " ++ toString report.skipped.length ++
    " skipped, " ++ toString report.evicted.length ++ " evicted"

structure Error where
  path : Path
  cause : TagFile.Error
  progress : Report
deriving DecidableEq, Repr

def Error.message (error : Error) : String := "Failed to load tag file: " ++ error.cause.message

variable {m : Type → Type} [Monad m]

def debug (supply : Supply m) (text : String) : m Unit := supply.note (.report .debug text)

def bringUp (supply : Supply m) :
    List Path → Report → Cache → m (Except Error Report × Cache)
  | [], report, cache => return (.ok report, cache)
  | path :: rest, report, cache => do
    match ← supply.modified path with
    | .error failure =>
      debug supply ("Skipping tag file " ++ path.text ++ ": " ++ failure.message)
      bringUp supply rest { report with skipped := report.skipped ++ [path] } cache
    | .ok modified =>
      if (cache.get? path).any (·.isFresh modified) then
        bringUp supply rest { report with unchanged := report.unchanged + 1 } cache
      else
        match ← supply.load path with
        | .error cause => return (.error ⟨path, cause, report⟩, cache)
        | .ok candidates =>
          let count := candidates.length
          debug supply ("Loaded " ++ path.text ++ " with " ++ toString count ++ " tags")
          bringUp supply rest { report with loaded := report.loaded ++ [(path, count)] }
            (cache.insert ⟨path, modified, candidates⟩)

def evict (supply : Supply m) (report : Report) (cache : Cache) : m (Report × Cache) := do
  let idle := cache.idlePaths
  idle.forM fun path => debug supply ("Evicting idle tag file " ++ path.text)
  return ({ report with evicted := idle }, cache.removeAll idle)

/-- Makes sure that all listed files are loaded and current. Files that are not there are skipped.
    If one cannot be loaded, nothing is dropped. -/
def refresh (supply : Supply m) (paths : List Path) (cache : Cache) :
    m (Except Error Report × Cache) := do
  match ← bringUp supply paths {} (cache.startRefresh paths) with
  | (.error error, cache) => return (.error error, cache)
  | (.ok report, cache) =>
    let (report, cache) ← evict supply report cache
    supply.note (.report .information report.summary)
    return (.ok report, cache)

end Cache

end TagMenu
