namespace TagMenu

inductive Severity where
  | error
  | warning
  | information
  | debug
deriving DecidableEq, Repr

inductive Note where
  | progress (text : String)
  | report (severity : Severity) (text : String)
deriving DecidableEq, Repr

def Note.progressTexts (notes : List Note) : List String :=
  notes.filterMap fun
    | progress text => some text
    | report _ _ => none

end TagMenu
