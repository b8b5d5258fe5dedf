import TagMenu.Source.Basic

namespace TagMenu.Command

inductive Format where
  | text
  | json
deriving DecidableEq, Repr

structure Completion where
  pattern : String
  tags : List Path := []
  file : Option Path := none
  format : Format := .text
  failOnEmpty : Bool := false
deriving DecidableEq, Repr

inductive Task where
  | complete (completion : Completion)
  | check (files : List Path)
  | init (force : Bool)
deriving DecidableEq, Repr

structure Invocation where
  task : Task
  /-- The file that the settings are in, if it is not to be looked for. -/
  config : Option Path := none
  verbose : Bool := false
deriving DecidableEq, Repr

structure Outcome where
  status : Nat
  output : String := ""
deriving DecidableEq, Repr

inductive Failure where
  | completion (error : CompletionError)
  | emptyPath
  | settingsExist (path : Path)
  | notText
  | unwritable (failure : Disk.Failure)

def Failure.message : Failure → String
  | completion error => error.message
  | emptyPath => "cannot make an empty path absolute"
  | settingsExist path => path.text ++ " already exists. Use --force to overwrite."
  | notText => "path contains invalid UTF-8 characters"
  | unwritable failure => failure.message

/-- The status of a command that could not be carried out, or was not understood. -/
def failureStatus : Nat := 2

end TagMenu.Command
