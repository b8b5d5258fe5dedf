import Std.Data.HashMap
import TagMenu.Cache.Policy
import TagMenu.Disk.Node
import TagMenu.Tag.File

namespace TagMenu

open Disk (Timestamp)

structure Entry where
  path : Path
  modified : Timestamp
  candidates : List Candidate
deriving DecidableEq, Repr, Inhabited

def Entry.isFresh (entry : Entry) (modified : Timestamp) : Bool := entry.modified == modified

structure Slot where
  entry : Entry
  lastSeen : Nat
deriving Inhabited

structure Cache where
  slots : Std.HashMap Path.Key Slot := ∅
  order : List Path := []
  policy : Eviction := .retain
  /-- How many refreshes there have been; fewer than 2 ^ 64 are meant, as many as a counter can tell. -/
  generation : Nat := 0

namespace Cache

def get? (cache : Cache) (path : Path) : Option Entry := (cache.slots.get? path.key).map (·.entry)

def contains (cache : Cache) (path : Path) : Bool := cache.slots.contains path.key

def insert (cache : Cache) (entry : Entry) : Cache :=
  { cache with
    slots := cache.slots.insert entry.path.key ⟨entry, cache.generation⟩
    order := if cache.contains entry.path then cache.order else cache.order ++ [entry.path] }

def remove (cache : Cache) (path : Path) : Cache :=
  { cache with
    slots := cache.slots.erase path.key
    order := cache.order.filter fun other => !other.same path }

def clear (cache : Cache) : Cache := { cache with slots := ∅, order := [] }

def paths (cache : Cache) : List Path := cache.order

def size (cache : Cache) : Nat := cache.slots.size

def isEmpty (cache : Cache) : Bool := cache.slots.isEmpty

def total (cache : Cache) : Nat :=
  cache.slots.fold (fun sum _ slot => sum + slot.entry.candidates.length) 0

def entries (cache : Cache) : List Entry := cache.order.filterMap cache.get?

def see (cache : Cache) (path : Path) : Cache :=
  match cache.slots.get? path.key with
  | none => cache
  | some slot =>
    { cache with slots := cache.slots.insert path.key { slot with lastSeen := cache.generation } }

def startRefresh (cache : Cache) (paths : List Path) : Cache :=
  paths.foldl see { cache with generation := cache.generation + 1 }

def idleness? (cache : Cache) (path : Path) : Option Nat :=
  (cache.slots.get? path.key).map fun slot => cache.generation - slot.lastSeen

def idlePaths (cache : Cache) : List Path :=
  match cache.policy.limit? with
  | none => []
  | some limit => cache.order.filter fun path => (cache.idleness? path).any (limit ≤ ·)

def removeAll (cache : Cache) (paths : List Path) : Cache := paths.foldl remove cache

end Cache

end TagMenu
