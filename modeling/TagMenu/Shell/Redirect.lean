import TagMenu.Shell.Condition

namespace TagMenu.Shell

open Disk (Failure)

variable {m : Type → Type} [Monad m]

def openingText (failure : Failure) (creates : Bool) : String :=
  match failure, creates with
  | .notFound, false | .notADirectory, false => "No such file"
  | .notFound, true | .notADirectory, true => "Directory nonexistent"
  | failure, _ => failure.reason

def refuseOpening {α : Type} (files : Files m) (name : Octets) (creates : Bool) (text : String) :
    Run m α :=
  let action := if creates then "cannot create " else "cannot open "
  refuse files (action.toList ++ name ++ ": ".toList ++ text.toList)

def deviceDescriptor? (name : Octets) : Option Nat :=
  match name.toText with
  | "/dev/stdin" => some 0
  | "/dev/stdout" => some 1
  | "/dev/stderr" => some 2
  | _ =>
    match if "/dev/fd/".toList.isPrefixOf name then name.drop 8 else [] with
    | [c] => Text.decimalValue? c
    | _ => none

def prepareFile (files : Files m) (name : Octets) (path : Path) (keep : Bool) : Run m Unit := do
  let before ← outside (files.read path)
  match before, keep with
  | .ok _, true => return
  | .error failure, _ =>
    if failure != .notFound then refuseOpening files name true (openingText failure true)
    else if let .error failure ← outside (files.write path .empty) then
      refuseOpening files name true (openingText failure true)
  | .ok _, false =>
    if let .error failure ← outside (files.write path .empty) then
      refuseOpening files name true (openingText failure true)

def openFile (files : Files m) (opening : Opening) (name : Octets) : Run m Nat := do
  if isNowhere name then return ← newChannel .nothing
  if let some descriptor := deviceDescriptor? name then
    match ← channelOf? descriptor with
    | some channel => return channel
    | none => refuseOpening files name (opening != .read) "No such file"
  let path ← pathOf name
  match opening with
  | .read =>
    match ← outside (files.read path) with
    | .ok _ | .error .isADirectory => newChannel (.file path true false false 0)
    | .error failure => refuseOpening files name false (openingText failure false)
  | .write force =>
    let guarded := (← session).has .noclobber && !force
    if guarded && (← outside (files.isFile path)) then
      refuseOpening files name true "File exists"
    prepareFile files name path false
    newChannel (.file path false true false 0)
  | .append =>
    prepareFile files name path true
    newChannel (.file path false true true 0)
  | .readWrite =>
    prepareFile files name path true
    newChannel (.file path true true false 0)

/-- A redirection with its words expanded. Only a document is not expanded until the redirections before
    it are followed. -/
inductive Route where
  | file (descriptor : Nat) (opening : Opening) (name : Octets)
  | copy (descriptor source : Nat)
  | close (descriptor : Nat)
  | document (descriptor : Nat) (text : Word)

def routeOf (expander : Expander m) : Redirect → Run m Route
  | .file descriptor opening word => return .file descriptor opening (← expandText expander .ofText word)
  | .document descriptor number => do
    return .document descriptor (((← get).shared.documents.lookup number).getD [])
  | .copy descriptor word => do
    match ← expandText expander .ofText word with
    | ['-'] => return .close descriptor
    | text =>
      match text, text.head?.bind Text.decimalValue? with
      | [_], some source => return .copy descriptor source
      | _, _ => refuse expander.files "Syntax error: Bad fd number".toList

def routesOf (expander : Expander m) (redirects : List Redirect) : Run m (List Route) :=
  redirects.mapM (routeOf expander)

def follow (expander : Expander m) : Route → Run m Unit
  | .file descriptor opening name => do
    connect descriptor (← openFile expander.files opening name)
  | .copy descriptor source => do
    match ← channelOf? source with
    | some channel => connect descriptor channel
    | none => refuse expander.files (Octets.ofInt source ++ ": Bad file descriptor".toList)
  | .close descriptor => disconnect descriptor
  | .document descriptor text => do
    connect descriptor (← newChannel (.source (← expandText expander {} text)))

def followAll (expander : Expander m) (routes : List Route) : Run m Nat := do
  try
    routes.forM (follow expander)
    return 0
  catch
    | .error => return 2
    | stop => throw stop

end TagMenu.Shell
