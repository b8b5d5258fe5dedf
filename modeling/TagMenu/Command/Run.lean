import TagMenu.Command.Arguments
import TagMenu.Command.Check
import TagMenu.Command.Complete
import TagMenu.Command.Init
import TagMenu.Command.Log

namespace TagMenu.Command

variable {m : Type → Type} [Monad m]

def perform (host : Host m) (names : Unicode.NameTable) (invocation : Invocation) :
    m (Except Failure Outcome) := do
  match invocation.task with
  | .complete completion =>
    match ← loadSettings host invocation.config with
    | .error error => return .error (.completion (.settings error))
    | .ok settings => complete host names settings completion
  | .check files => return .ok (← check host names files)
  | .init force => init host force

def run (host : Host m) (names : Unicode.NameTable) (arguments : List String) : m Outcome := do
  match readArguments arguments with
  | .misuse => return { status := failureStatus }
  | .print text => return { status := 0, output := text }
  | .invocation invocation =>
    let host := host.logging invocation.verbose
    match ← perform host names invocation with
    | .ok outcome => return outcome
    | .error failure =>
      host.report .error failure.message
      return { status := failureStatus }

end TagMenu.Command
