import TagMenu.Cache.Basic

namespace TagMenu

structure Snapshot where
  entries : List Entry
deriving DecidableEq, Repr, Inhabited

namespace Snapshot

def size (snapshot : Snapshot) : Nat := snapshot.entries.length

def isEmpty (snapshot : Snapshot) : Bool := snapshot.entries.isEmpty

def candidates (snapshot : Snapshot) : List Candidate := snapshot.entries.flatMap (·.candidates)

end Snapshot

def Cache.snapshot (cache : Cache) : Snapshot := ⟨cache.entries⟩

end TagMenu
