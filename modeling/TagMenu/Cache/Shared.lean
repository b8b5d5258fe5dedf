import TagMenu.Cache.Refresh

namespace TagMenu.Cache

variable {m : Type → Type} [Monad m]

def serve (supply : Supply m) :
    List (List Path) → Cache → m (List (Except Error Report) × Cache)
  | [], cache => return ([], cache)
  | paths :: rest, cache => do
    let (outcome, cache) ← refresh supply paths cache
    let (outcomes, cache) ← serve supply rest cache
    return (outcome :: outcomes, cache)

structure Tally where
  loaded : Nat := 0
  unchanged : Nat := 0
  skipped : Nat := 0
  errors : Nat := 0
deriving DecidableEq, Repr

def Tally.add (tally : Tally) : Except Error Report → Tally
  | .ok report =>
    { tally with
      loaded := tally.loaded + report.loaded.length
      unchanged := tally.unchanged + report.unchanged
      skipped := tally.skipped + report.skipped.length }
  | .error _ => { tally with errors := tally.errors + 1 }

def tally (outcomes : List (Except Error Report)) : Tally := outcomes.foldl Tally.add {}

end TagMenu.Cache
