import TagMenu.Host
import TagMenu.Shell.Execute

namespace TagMenu.Shell

open Disk (Failure)

variable {m : Type → Type} [Monad m]

def workLimit : Nat := 1000000

def surroundings (directory : Octets) : List (Octets × Variable) :=
  let known (name : String) (value : Octets) : Octets × Variable :=
    (name.toList, { value? := some value, exported := true })
  [known "HOME" "/root".toList, known "PATH" "/usr/local/bin:/usr/bin:/bin".toList,
    known "PWD" directory]

def startState (program directory : Octets) : State where
  session :=
    { name := program
      arguments := []
      process := 1000
      directory
      bindings := surroundings directory
      descriptors := [(0, 0), (1, 1), (2, 2)] }
  shared := { channels := #[.source [], .sink .empty, .sink .empty] }

def State.written (state : State) (channel : Nat) : ByteArray :=
  match state.shared.channels[channel]? with
  | some (.sink taken) => taken
  | _ => .empty

def runKnown (files : Files m) (program name : Octets) (arguments : List Octets) :
    m ProgramOutput := do
  let directory := Octets.ofText (← files.workingDirectory).text
  let start := startState program directory
  let action := if name = "sh".toList then
      runShell files workLimit start.session.process program arguments
    else External.run files program name arguments
  let (result, state) ← (action.run).run start
  let success := match result with
    | .ok status => status = 0
    | .error _ => false
  return ⟨state.written 1, state.written 2, success⟩

def known? (program : Octets) : Option Octets :=
  if program.contains '/' then programAt? program
  else if isProgram program then some program
  else none

def refusal (files : Files m) (program : String) : m Failure := do
  match ← files.read ⟨program⟩ with
  | .ok _ | .error .isADirectory => return .permissionDenied
  | .error failure => return failure

def runNamed (files : Files m) (program : String) (arguments : List String) :
    m (Except Failure ProgramOutput) := do
  if (program :: arguments).any (·.contains '\x00') then return .error .nulInArgument
  let path := Octets.ofText program
  match known? path with
  | some name => return .ok (← runKnown files path name (arguments.map Octets.ofText))
  | none =>
    if program.contains '/' then return .error (← refusal files program)
    else return .error .notFound

end TagMenu.Shell
