namespace TagMenu

structure Candidate where
  word : String
  dup : UInt8
  kind : String
  menu : String
  info : String
deriving DecidableEq, Repr, Inhabited

namespace Candidate

def duplicateMarker : UInt8 := 1

/-- The menu line joins module and signature with a full stop; the documentation follows it on a
    line of its own in the information text. -/
def ofParts (word kind owner signature doc : String) : Candidate :=
  let menu := owner ++ "." ++ signature
  { word, dup := duplicateMarker, kind, menu, info := menu ++ "\n" ++ doc }

end Candidate

end TagMenu
