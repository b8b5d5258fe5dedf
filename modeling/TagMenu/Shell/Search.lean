import TagMenu.Shell.Condition
import TagMenu.Shell.Token

namespace TagMenu.Shell

variable {m : Type → Type} [Monad m]

def ordinaryCommands : List String :=
  ["[", "alias", "bg", "cd", "chdir", "command", "echo", "false", "fg", "getopts", "hash", "jobs",
    "kill", "printf", "pwd", "read", "test", "true", "type", "ulimit", "umask", "unalias", "wait"]

def isSpecialCommand (name : Octets) : Bool := (specialCommands.map String.toList).contains name

def isOwnCommand (name : Octets) : Bool :=
  isSpecialCommand name || (ordinaryCommands.map String.toList).contains name

inductive Lookup where
  | found (path : Octets)
  | denied
  | missing
deriving DecidableEq, Repr

def lookIn (files : Files m) (name : Octets) : List Octets → Run m Lookup
  | [] => return .missing
  | directory :: rest => do
    let path := if directory.isEmpty then name else directory ++ '/' :: name
    if (programAt? path).isSome then return .found path
    match ← lookIn files name rest with
    | .missing => return if ← askFile files 'e' path then .denied else .missing
    | result => return result

def lookUp (files : Files m) (standard : Bool) (name : Octets) : Run m Lookup := do
  if name.contains '/' then
    if (programAt? name).isSome then return .found name
    return if ← askFile files 'e' name then .denied else .missing
  else
    let s ← session
    let path? := if standard then some standardPath else s.valueOf "PATH"
    lookIn files name ((path?.map (Text.pieces ':')).getD [])

def find (files : Files m) (standard : Bool) (name : Octets) : Run m Lookup := do
  let result ← lookUp files standard name
  if let .found _ := result then
    unless standard || name.contains '/' || (← session).tracked.contains name do
      modifySession fun s => { s with tracked := s.tracked ++ [name] }
  return result

inductive Callee where
  | own (name : Octets)
  | function (function : Function)
  | program (name : Octets)
  | denied
  | missing

def innerCallee? (withFunctions : Bool) (name : Octets) : Run m (Option Callee) := do
  let s ← session
  match if withFunctions then s.functions.lookup name else none with
  | some function => return some (.function function)
  | none => return if !name.contains '/' && isOwnCommand name then some (.own name) else none

def outerCallee (files : Files m) (standard : Bool) (name : Octets) : Run m Callee := do
  match ← find files standard name with
  | .denied => return .denied
  | .missing => return .missing
  | .found path => return .program ((programAt? path).getD [])

def seek (files : Files m) : Command → Run m Unit
  | .simple _ _ (word :: _) _ => do
    match plainText? word with
    | some name =>
      if isName name && (← innerCallee? true name).isNone then
        let _ ← outerCallee files false name
    | none => return
  | _ => return

end TagMenu.Shell
