import TagMenu.Command.Basic
import TagMenu.Tag.Record

namespace TagMenu.Command

def lineOf (candidate : Candidate) : String :=
  candidate.word ++ "\t" ++ candidate.kind ++ "\t" ++ candidate.menu

def Format.render (format : Format) (candidates : List Candidate) : String :=
  match format with
  | text => String.join (candidates.map fun candidate => lineOf candidate ++ "\n")
  | json => Candidate.listToJson candidates ++ "\n"

end TagMenu.Command
