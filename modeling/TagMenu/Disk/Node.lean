import TagMenu.Disk.Failure
import TagMenu.Disk.FileName

namespace TagMenu.Disk

structure Timestamp where
  seconds : Int
  nanoseconds : Nat
deriving DecidableEq, Repr, Inhabited

/-- What a disk holds. Whoever asks may read, change and search all of it. -/
inductive Node where
  | file (content : ByteArray) (modified : Timestamp)
  | link (target : String)
  | directory (entries : List (FileName × Node)) (modified : Timestamp)
deriving Inhabited

/-- A place in a tree that a path can lead to: the names from the root to it, which are texts as the path is one. -/
abbrev Place := List String

namespace Node

def setEntry (name : FileName) (node : Option Node) (entries : List (FileName × Node)) :
    List (FileName × Node) :=
  match entries with
  | [] => node.toList.map (name, ·)
  | (other, kept) :: rest =>
    if other = name then node.toList.map (name, ·) ++ rest
    else (other, kept) :: setEntry name node rest

def isDirectory : Node → Bool
  | directory _ _ => true
  | _ => false

def below? (node : Node) : List FileName → Option Node
  | [] => some node
  | name :: rest =>
    match node with
    | directory entries _ => (entries.lookup name).bind (·.below? rest)
    | _ => none

def get? (node : Node) (place : Place) : Option Node := node.below? (place.map .ofText)

/-- The tree with the node at a place replaced, added or taken away. A directory that gets or loses
    an entry was changed at `time`. The directory around the place has to be there. -/
def put (node : Node) (time : Timestamp) (new : Option Node) : Place → Node
  | [] => new.getD node
  | [name] =>
    match node with
    | directory entries modified =>
      directory (setEntry name new entries)
        (if (entries.lookup (.ofText name)).isSome = new.isSome then modified else time)
    | node => node
  | name :: next :: rest =>
    match node with
    | directory entries modified =>
      match entries.lookup (.ofText name) with
      | some child =>
        directory (setEntry name (some (child.put time new (next :: rest))) entries) modified
      | none => node
    | node => node

def stamp (time : Timestamp) : Node → Node
  | file content _ => file content time
  | link target => link target
  | directory entries _ => directory entries time

end Node

end TagMenu.Disk
