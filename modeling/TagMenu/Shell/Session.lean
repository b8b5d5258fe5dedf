import TagMenu.Files
import TagMenu.Shell.Script

/-!
Sessions: what scripts run in and change. A script can run commands in a session of their own, which
starts as a copy; what descriptors lead to is shared by all sessions.
-/

namespace TagMenu.Shell

open Disk (Failure)

inductive Channel where
  | source (rest : Octets)
  | sink (taken : ByteArray)
  | nothing
  | file (path : Path) (readable writable appends : Bool) (place : Nat)
deriving Inhabited

structure Variable where
  value? : Option Octets
  exported : Bool := false
  fixed : Bool := false
deriving DecidableEq, Repr

inductive Switch where
  | errexit
  | noglob
  | ignoreeof
  | interactive
  | monitor
  | noexec
  | stdin
  | xtrace
  | verbose
  | vi
  | emacs
  | noclobber
  | allexport
  | notify
  | nounset
  | privileged
  | nolog
  | debug
deriving DecidableEq, Repr

namespace Switch

def name : Switch → String
  | errexit => "errexit"
  | noglob => "noglob"
  | ignoreeof => "ignoreeof"
  | interactive => "interactive"
  | monitor => "monitor"
  | noexec => "noexec"
  | stdin => "stdin"
  | xtrace => "xtrace"
  | verbose => "verbose"
  | vi => "vi"
  | emacs => "emacs"
  | noclobber => "noclobber"
  | allexport => "allexport"
  | notify => "notify"
  | nounset => "nounset"
  | privileged => "privileged"
  | nolog => "nolog"
  | debug => "debug"

def letter? : Switch → Option Char
  | errexit => some 'e'
  | noglob => some 'f'
  | ignoreeof => some 'I'
  | interactive => some 'i'
  | monitor => some 'm'
  | noexec => some 'n'
  | stdin => some 's'
  | xtrace => some 'x'
  | verbose => some 'v'
  | vi => some 'V'
  | emacs => some 'E'
  | noclobber => some 'C'
  | allexport => some 'a'
  | notify => some 'b'
  | nounset => some 'u'
  | privileged => some 'p'
  | nolog | debug => none

def all : List Switch :=
  [errexit, noglob, ignoreeof, interactive, monitor, noexec, stdin, xtrace, verbose, vi, emacs,
    noclobber, allexport, notify, nounset, privileged, nolog, debug]

def ofLetter? (c : Char) : Option Switch := all.find? fun switch => switch.letter? = some c

def ofName? (name : Octets) : Option Switch := all.find? fun switch => switch.name.toList = name

end Switch

inductive Skip where
  | none
  | leave (loops : Nat)
  | again (loops : Nat)
  | return_
deriving DecidableEq, Repr

structure Function where
  line : Nat
  body : Command

inductive Saved where
  | variable_ (name : Octets) (before : Option Variable)
  | switches (before : List Switch)

structure Session where
  name : Octets
  arguments : List Octets
  process : Nat
  directory : Octets
  bindings : List (Octets × Variable) := []
  functions : List (Octets × Function) := []
  aliases : List (Octets × Octets) := []
  switches : List Switch := []
  descriptors : List (Nat × Nat) := []
  traps : List (Nat × Octets) := []
  status : Nat := 0
  outputStatus : Nat := 0
  loops : Nat := 0
  skip : Skip := .none
  line : Nat := 1
  command? : Option Octets := none
  depth : Nat := 0
  saved : List (List Saved) := []
  optionIndex : Nat := 1
  optionPlace : Option Nat := none
  outputLost : Bool := false
  signals : List Nat := []
  tracked : List Octets := []
  lastBackground : Option Nat := none
  mask : Nat := 0o022
  final? : Option Nat := none

/-- A command in the background that has not been run yet, and the session that it is run in. -/
structure Job where
  process : Nat
  session : Session
  command : Command

structure Shared where
  channels : Array Channel := #[]
  jobs : List Job := []
  documents : List (Nat × Word) := []
  nextDocument : Nat := 0
  nextProcess : Nat := 1001
  ended : List (Nat × Nat) := []

structure State where
  session : Session
  shared : Shared

inductive Stop where
  | exit
  | error
  | killed (process signal : Nat)
  | endless
deriving DecidableEq, Repr

variable {m : Type → Type} [Monad m]

abbrev Run (m : Type → Type) := ExceptT Stop (StateT State m)

def session : Run m Session := return (← get).session

def modifySession (change : Session → Session) : Run m Unit :=
  modify fun state => { state with session := change state.session }

def modifyShared (change : Shared → Shared) : Run m Unit :=
  modify fun state => { state with shared := change state.shared }

def setStatus (status : Nat) : Run m Unit := modifySession fun s => { s with status }

def outside {α : Type} (action : m α) : Run m α := ExceptT.lift (StateT.lift action)

def setEntry {α β : Type} [DecidableEq α] (key : α) (value : β) : List (α × β) → List (α × β)
  | [] => [(key, value)]
  | (other, kept) :: rest =>
    if other = key then (key, value) :: rest else (other, kept) :: setEntry key value rest

def eraseEntry {α β : Type} [DecidableEq α] (key : α) (entries : List (α × β)) : List (α × β) :=
  entries.filter fun (other, _) => other != key

def newChannel (channel : Channel) : Run m Nat :=
  modifyGet fun state =>
    let channels := state.shared.channels
    (channels.size, { state with
      shared := { state.shared with channels := channels.push channel } })

def setChannel (number : Nat) (channel : Channel) : Run m Unit :=
  modifyShared fun shared => { shared with channels := shared.channels.setIfInBounds number channel }

def channelOf? (descriptor : Nat) : Run m (Option Nat) :=
  return (← session).descriptors.lookup descriptor

def connect (descriptor channel : Nat) : Run m Unit :=
  modifySession fun s => { s with descriptors := setEntry descriptor channel s.descriptors }

def disconnect (descriptor : Nat) : Run m Unit :=
  modifySession fun s => { s with descriptors := eraseEntry descriptor s.descriptors }

def channel? (number : Nat) : Run m (Option Channel) := return (← get).shared.channels[number]?

def overwrite (content text : ByteArray) (place : Nat) : ByteArray :=
  let before := content.extract 0 place
  let gap : ByteArray := ⟨Array.replicate (place - before.size) 0⟩
  before ++ gap ++ text ++ content.extract (place + text.size) content.size

def writeChannel (files : Files m) (number : Nat) (text : ByteArray) : Run m Bool := do
  match ← channel? number with
  | some (.sink taken) =>
    -- The channel holds nothing for now, so that the text can grow in its place.
    setChannel number .nothing
    setChannel number (.sink (taken ++ text))
    return true
  | some .nothing => return true
  | some (.file path readable true appends place) =>
    let content := (← outside (files.read path)).toOption.getD .empty
    let place := if appends then content.size else place
    match ← outside (files.write path (overwrite content text place)) with
    | .ok _ =>
      setChannel number (.file path readable true appends (place + text.size))
      return true
    | .error _ => return false
  | _ => return false

def write (files : Files m) (descriptor : Nat) (text : Octets) : Run m Bool := do
  if text.isEmpty then return true
  match ← channelOf? descriptor with
  | some number => writeChannel files number text.toBytes
  | none => return false

def readChannel (files : Files m) (number : Nat) : Run m (Except String Octets) := do
  match ← channel? number with
  | some (.source rest) => return .ok rest
  | some .nothing => return .ok []
  | some (.file path true _ _ place) =>
    match ← outside (files.read path) with
    | .ok content => return .ok (Octets.ofBytes (content.extract place content.size))
    | .error failure => return .error failure.reason
  | _ => return .error "Bad file descriptor"

def readable (files : Files m) (descriptor : Nat) : Run m (Except String Octets) := do
  match ← channelOf? descriptor with
  | some number => readChannel files number
  | none => return .error "Bad file descriptor"

def advance (descriptor count : Nat) : Run m Unit := do
  if let some number ← channelOf? descriptor then
    match ← channel? number with
    | some (.source rest) => setChannel number (.source (rest.drop count))
    | some (.file path readable writable appends place) =>
      setChannel number (.file path readable writable appends (place + count))
    | _ => return

def preamble : Run m Octets := do
  let s ← session
  let place := s.name ++ ": ".toList ++ Octets.ofInt s.line ++ ": ".toList
  return match s.command? with
    | some command => place ++ command ++ ": ".toList
    | none => place

def complain (files : Files m) (text : Octets) : Run m Unit := do
  let _ ← write files 2 ((← preamble) ++ text ++ ['\n'])

def refuse {α : Type} (files : Files m) (text : Octets) : Run m α := do
  complain files text
  setStatus 2
  throw .error

def pathOf (name : Octets) : Run m Path := do
  let s ← session
  return if name.isEmpty then ⟨""⟩ else Path.join ⟨s.directory.toText⟩ ⟨name.toText⟩

def Session.binding? (s : Session) (name : Octets) : Option Variable := s.bindings.lookup name

def Session.value? (s : Session) (name : Octets) : Option Octets :=
  (s.binding? name).bind (·.value?)

def Session.valueOf (s : Session) (name : String) : Option Octets := s.value? name.toList

def Session.has (s : Session) (switch : Switch) : Bool := s.switches.contains switch

/-- With what is known about a variable, or nothing more. Where programs were found is forgotten when
    they are to be looked for in other directories. -/
def Session.binding (s : Session) (name : Octets) (found? : Option Variable) : Session :=
  { s with
    bindings := match found? with
      | some found => setEntry name found s.bindings
      | none => eraseEntry name s.bindings
    tracked := if name = "PATH".toList then [] else s.tracked }

def setVariable (name : Octets) (found? : Option Variable) : Run m Unit :=
  modifySession fun s => s.binding name found?

def assignAs (files : Files m) (exported : Bool) (name value : Octets) : Run m Unit := do
  unless isName name do refuse files (name ++ ": bad variable name".toList)
  let s ← session
  let before := (s.binding? name).getD { value? := none }
  if before.fixed then refuse files (name ++ ": is read only".toList)
  let exported := before.exported || exported || s.has .allexport
  setVariable name (some { value? := some value, exported, fixed := false })
  if name = "OPTIND".toList then
    let index := (Text.numeral 10 (value.filterMap Text.decimalValue?))
    modifySession fun s => { s with optionIndex := if index = 0 then 1 else index, optionPlace := none }

def assign (files : Files m) (name value : Octets) : Run m Unit := assignAs files false name value

def separators : Run m Octets := return ((← session).valueOf "IFS").getD [' ', '\t', '\n']

end TagMenu.Shell
