import TagMenu.Shell.Call.Basic
import TagMenu.Shell.Search
import TagMenu.Shell.Signal

namespace TagMenu.Shell.Call

variable {m : Type → Type} [Monad m]

def plainPath (directory path : Octets) : Octets :=
  let all := if path.head? = some '/' then path else directory ++ '/' :: path
  let steps := (Text.pieces '/' all).foldl (fun steps piece =>
    if piece = [] || piece = ['.'] then steps
    else if piece = ['.', '.'] then steps.drop 1
    else piece :: steps) []
  '/' :: Octets.join ['/'] steps.reverse

def isAnchored (path : Octets) : Bool :=
  match Text.pieces '/' path with
  | [] => false
  | first :: _ => path.head? = some '/' || first = ['.'] || first = ['.', '.']

def cd (files : Files m) (arguments : List Octets) : Run m Nat := do
  let (_, names) ← options files [('L', false), ('P', false)] arguments
  let s ← session
  let isBack := names.head? = some ['-']
  let goal := match names with
    | [] => (s.valueOf "HOME").getD []
    | ['-'] :: _ => (s.valueOf "OLDPWD").getD []
    | name :: _ => name
  let goal := if goal.isEmpty then ['.'] else goal
  let directory := plainPath s.directory goal
  let isThere ← askFile files 'd' directory
  unless isThere && (isAnchored goal || (← askFile files 'd' goal)) do
    refuse files ("can't cd to ".toList ++ goal)
  modifySession fun s => { s with directory }
  assignAs files true "OLDPWD".toList s.directory
  assignAs files true "PWD".toList directory
  if isBack then sayLine files directory
  return 0

def pwd (files : Files m) (arguments : List Octets) : Run m Nat := do
  let _ ← options files [('L', false), ('P', false)] arguments
  sayLine files (← session).directory
  return 0

def rightsText (mask : Nat) : Octets :=
  [(4, 'r'), (2, 'w'), (1, 'x')].filterMap fun (bit, letter) =>
    if mask / bit % 2 = 0 then some letter else none

def umask (files : Files m) (arguments : List Octets) : Run m Nat := do
  let (given, names) ← options files [('S', false)] arguments
  let mask := (← session).mask
  match names with
  | [] =>
    if given.isEmpty then
      let digits := Nat.toDigits 8 mask
      sayLine files (List.replicate (4 - digits.length) '0' ++ digits)
    else
      sayLine files ("u=".toList ++ rightsText (mask / 64) ++ ",g=".toList
        ++ rightsText (mask / 8 % 8) ++ ",o=".toList ++ rightsText (mask % 8))
  | name :: _ =>
    if name.head?.any Char.isDigit then
      unless name.all fun c => (Text.octalValue? c).isSome do
        refuse files ("Illegal number: ".toList ++ name)
      let mask := Text.numeral 8 (name.filterMap Text.octalValue?)
      modifySession fun s => { s with mask := mask % 512 }
    else refuse files ("Illegal mode: ".toList ++ name)
  return 0

def times (files : Files m) : Run m Nat := do
  sayLine files "0m0.000000s 0m0.000000s".toList
  sayLine files "0m0.000000s 0m0.000000s".toList
  return 0

def noSuchJob {α : Type} (files : Files m) (name : Octets) : Run m α :=
  refuse files ("No such job: ".toList ++ name)

def resume (files : Files m) (arguments : List Octets) : Run m Nat := do
  match ← operands files arguments with
  | [] => refuse files "No current job".toList
  | name :: _ => noSuchJob files name

def jobs (files : Files m) (arguments : List Octets) : Run m Nat := do
  match ← options files [('l', false), ('p', false)] arguments with
  | (_, []) => return 0
  | (_, name :: _) => noSuchJob files name

def wait (files : Files m) (arguments : List Octets) : Run m Nat := do
  match (← operands files arguments).getLast? with
  | none => return 0
  | some name =>
    if name.head? = some '%' then noSuchJob files name
    let ended := (← get).shared.ended.lookup (← countArgument files name)
    return ended.getD 127

def trap (files : Files m) (arguments : List Octets) : Run m Nat := do
  match ← operands files arguments with
  | [] =>
    let traps := (← session).traps.mergeSort fun (a, _) (b, _) => a ≤ b
    traps.forM fun (signal, text) =>
      sayLine files ("trap -- ".toList ++ quoted text ++ ' ' :: Signal.name signal)
    return 0
  | first :: rest =>
    let isReset := rest.isEmpty || (Signal.ofText? first).isSome
    let action? := if isReset || first = ['-'] then none else some first
    for name in if isReset then first :: rest else rest do
      match Signal.ofText? name with
      | some signal =>
        modifySession fun s =>
          { s with
            traps := match action? with
              | some action => setEntry signal action s.traps
              | none => eraseEntry signal s.traps }
      | none =>
        sayAside files ("trap: ".toList ++ name ++ ": bad trap".toList)
        return 1
    return 0

def send (files : Files m) (signal : Nat) (name : Octets) : Run m Nat := do
  let s ← session
  if name.head? = some '%' then noSuchJob files name
  let process ← countArgument files name
  if process != s.process then
    complain files "No such process".toList
    return 1
  match s.traps.lookup signal with
  | some _ =>
    modifySession fun s => { s with signals := s.signals ++ [signal] }
    return 0
  | none =>
    if Signal.isHarmless signal then return 0 else throw (.killed process signal)

def kill (files : Files m) (arguments : List Octets) : Run m Nat := do
  let usage {α : Type} : Run m α :=
    refuse files
      ("Usage: kill [-s sigspec | -signum | -sigspec] [pid | job]... or\n" ++
        "kill -l [exitstatus]").toList
  let sendAll (signal : Nat) (names : List Octets) : Run m Nat := do
    if names.isEmpty then usage
    let mut status := 0
    for name in names do
      status := (← send files signal name)
    return status
  match arguments with
  | [] => usage
  | ['-', 'l'] :: [] =>
    (0 :: List.range' 1 31).forM fun number =>
      sayLine files (if number = 0 then ['0'] else Signal.name number)
    return 0
  | ['-', 'l'] :: name :: _ =>
    let number ← countArgument files name
    sayLine files (Signal.name (if number > 128 then number - 128 else number))
    return 0
  | ['-', 's'] :: name :: names =>
    match Signal.ofText? name with
    | some signal => sendAll signal names
    | none => refuse files ("invalid signal number or name: ".toList ++ name)
  | ('-' :: name) :: names =>
    if name = ['-'] then sendAll 15 names
    else
      match Signal.ofText? name with
      | some signal => sendAll signal names
      | none => refuse files ("Illegal option -".toList ++ name.take 1)
  | names => sendAll 15 names

def describe (files : Files m) (standard : Bool) (name : Octets) : Run m Nat := do
  let s ← session
  let tell (text : String) : Run m Nat := do
    sayLine files (name ++ text.toList)
    return 0
  if (Keyword.ofText? name).isSome then tell " is a shell keyword"
  else if let some text := s.aliases.lookup name then
    sayLine files (name ++ " is an alias for ".toList ++ text)
    return 0
  else if (s.functions.lookup name).isSome then tell " is a shell function"
  else if isSpecialCommand name then tell " is a special shell builtin"
  else if isOwnCommand name then tell " is a shell builtin"
  else
    match ← find files standard name with
    | .found path =>
      let manner := if s.tracked.contains name then " is a tracked alias for " else " is "
      sayLine files (name ++ manner.toList ++ path)
      return 0
    | .denied =>
      if name.contains '/' then
        sayLine files (name ++ " is ".toList ++ name)
        return 0
      else
        sayLine files (name ++ ": not found".toList)
        return 127
    | .missing =>
      sayLine files (name ++ ": not found".toList)
      return 127

def locate (files : Files m) (standard : Bool) (name : Octets) : Run m Nat := do
  let s ← session
  if let some text := s.aliases.lookup name then
    sayLine files ("alias ".toList ++ name ++ '=' :: quoted text)
    return 0
  else if (Keyword.ofText? name).isSome || (s.functions.lookup name).isSome || isOwnCommand name then
    sayLine files name
    return 0
  else
    match ← find files standard name with
    | .found path =>
      sayLine files path
      return 0
    | .denied =>
      if name.contains '/' then
        sayLine files name
        return 0
      else return 127
    | .missing => return 127

def type (files : Files m) (arguments : List Octets) : Run m Nat := do
  let mut status := 0
  for name in arguments do
    let result ← describe files false name
    status := status ||| result
  return status

def hash (files : Files m) (arguments : List Octets) : Run m Nat := do
  let (given, names) ← options files [('r', false)] arguments
  if !given.isEmpty then modifySession fun s => { s with tracked := [] }
  else if names.isEmpty then
    for name in (← session).tracked do
      if let .found path ← lookUp files false name then sayLine files path
  let mut status := 0
  for name in names do
    if !isOwnCommand name then
      match ← find files false name with
      | .found _ => pure ()
      | .denied =>
        complain files (name ++ ": Permission denied".toList)
        status := 1
      | .missing =>
        complain files (name ++ ": not found".toList)
        status := 1
  return status

def jump (files : Files m) (again : Bool) (arguments : List Octets) : Run m Nat := do
  let count ← match arguments with
    | [] => pure 1
    | argument :: _ => do
      let count ← countArgument files argument
      if count = 0 then refuse files ("Illegal number: ".toList ++ argument)
      pure count
  let count := min count (← session).loops
  if count != 0 then
    modifySession fun s => { s with skip := if again then .again count else .leave count }
  return 0

def return_ (files : Files m) (arguments : List Octets) : Run m Nat := do
  let status ← match arguments with
    | [] => pure (← session).status
    | argument :: _ => countArgument files argument
  modifySession fun s => { s with skip := .return_ }
  return status

def exit (files : Files m) (arguments : List Octets) : Run m Nat := do
  if let argument :: _ := arguments then
    let status ← countArgument files argument
    modifySession fun s => { s with status, final? := some status }
  throw .exit

end TagMenu.Shell.Call
