import Std.Data.HashMap
import TagMenu.Tag.Candidate
import TagMenu.Cache.Snapshot
import TagMenu.Pattern.Keyword

namespace TagMenu

structure Index where
  reversedWords : List String := []
  groups : Std.HashMap String (List Candidate) := ∅

namespace Index

def insert (index : Index) (candidate : Candidate) : Index :=
  let word := candidate.word
  { reversedWords :=
      if index.groups.contains word then index.reversedWords else word :: index.reversedWords
    groups := index.groups.insert word (candidate :: (index.groups.get? word).getD []) }

def ofCandidates (candidates : List Candidate) : Index := candidates.foldl insert {}

def words (index : Index) : List String := index.reversedWords.reverse

def get (index : Index) (word : String) : List Candidate :=
  ((index.groups.get? word).getD []).reverse

def size (index : Index) : Nat := index.reversedWords.length

def isEmpty (index : Index) : Bool := index.reversedWords.isEmpty

def matching (index : Index) (keyword : Keyword) : List Candidate :=
  (index.words.filter keyword.accepts).flatMap index.get

end Index

def Snapshot.gather (snapshot : Snapshot) (keyword : Keyword) : List Candidate :=
  (Index.ofCandidates snapshot.candidates).matching keyword

end TagMenu
