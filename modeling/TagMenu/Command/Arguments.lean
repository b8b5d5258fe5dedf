import TagMenu.Command.Basic
import TagMenu.Command.Help
import TagMenu.Text.Split

/-!
The arguments of a command line, read as what is asked for. Options come in a long form after two
hyphens, and some of them in a short form of one letter after one, where several may be joined. A
value stands in the argument of its option or in the next one; in the latter case it does not begin
with a hyphen, unless it is nothing else. Nothing is an option after two hyphens alone.
-/

namespace TagMenu.Command

inductive Purpose where
  | flag
  | value (accepts : String → Bool)
  | print (text : String)

structure OptionForm where
  name : String
  letter : Option Char := none
  purpose : Purpose
  repeatable : Bool := false

structure Level where
  options : List OptionForm
  limit : Option Nat
  acceptsWord : String → Bool := fun _ => true
  commands : List String := []

inductive Halt where
  | misuse
  | print (text : String)
deriving DecidableEq, Repr

structure Given where
  options : List (String × String) := []
  words : List String := []
  /-- An option that waits for its value, or whose value has not been looked at. -/
  pending : Option (OptionForm × Option String) := none

namespace Given

def has (given : Given) (name : String) : Bool := given.options.any (·.1 == name)

def valuesOf (given : Given) (name : String) : List String :=
  (given.options.filter (·.1 == name)).map (·.2)

def value? (given : Given) (name : String) : Option String := (given.valuesOf name).head?

def take (given : Given) (form : OptionForm) (value : String) : Except Halt Given :=
  if given.has form.name && !form.repeatable then .error .misuse
  else
    let taken := { given with options := given.options ++ [(form.name, value)] }
    match form.purpose with
    | .flag => .ok taken
    | .value accepts => if accepts value then .ok taken else .error .misuse
    | .print text => .error (.print text)

def settle (given : Given) : Except Halt Given :=
  match given.pending with
  | none => .ok given
  | some (_, none) => .error .misuse
  | some (form, some value) => { given with pending := none }.take form value

def addWord (level : Level) (given : Given) (word : String) : Except Halt Given := do
  let given ← given.settle
  if level.limit.any (· ≤ given.words.length) then throw .misuse
  if !level.acceptsWord word then throw .misuse
  return { given with words := given.words ++ [word] }

def addOption (given : Given) (form : OptionForm) (attached : Option String) :
    Except Halt Given := do
  let given ← given.settle
  match form.purpose, attached with
  | .value _, none => return { given with pending := some (form, none) }
  | .value _, some value => given.take form value
  | _, none => given.take form ""
  | _, some _ => throw .misuse

end Given

namespace Level

def named? (level : Level) (name : String) : Option OptionForm :=
  level.options.find? (·.name == name)

def lettered? (level : Level) (letter : Char) : Option OptionForm :=
  level.options.find? (·.letter == some letter)

def readLong (level : Level) (given : Given) (chars : List Char) : Except Halt Given :=
  let (name, value) := match Text.cutFirst? '=' chars with
    | some (name, value) => (name, some (String.ofList value))
    | none => (chars, none)
  match level.named? (String.ofList name) with
  | some form => given.addOption form value
  | none => .error .misuse

def readLetters (level : Level) (given : Given) : List Char → Except Halt Given
  | [] => .ok given
  | letter :: rest =>
    match level.lettered? letter with
    | none => .error .misuse
    | some form =>
      match form.purpose with
      | .value _ =>
        let value := match rest with
          | '=' :: value => value
          | value => value
        given.addOption form (if rest.isEmpty then none else some (String.ofList value))
      | _ => do
        let given ← given.addOption form none
        readLetters level given rest

def readItem (level : Level) (given : Given) (argument : String) : Except Halt Given :=
  match argument.toList with
  | '-' :: '-' :: chars => level.readLong given chars
  | '-' :: letter :: chars => level.readLetters given (letter :: chars)
  | _ => given.addWord level argument

def looksLikeOption (argument : String) : Bool := argument.startsWith "-" && argument != "-"

def read (level : Level) (given : Given) :
    List String → Except Halt (Given × Option (String × List String))
  | [] => return (← given.settle, none)
  | argument :: rest => do
    match given.pending with
    | some (form, none) =>
      if looksLikeOption argument then throw .misuse
      else level.read { given with pending := some (form, some argument) } rest
    | _ =>
      if level.commands.contains argument then return (given, some (argument, rest))
      else if argument = "--" then return (← rest.foldlM (Given.addWord level) (← given.settle), none)
      else level.read (← level.readItem given argument) rest

end Level

def isFilled (value : String) : Bool := !value.isEmpty

def sharedOptions (help : String) : List OptionForm := [
  { name := "config", letter := some 'c', purpose := .value isFilled },
  { name := "verbose", letter := some 'v', purpose := .flag },
  { name := "help", letter := some 'h', purpose := .print help }]

def topLevel : Level where
  options := sharedOptions Help.overview ++
    [{ name := "version", letter := some 'V', purpose := .print Help.version }]
  limit := some 0
  commands := ["complete", "check", "init", "help"]

def completeLevel : Level where
  options := sharedOptions Help.complete ++ [
    { name := "tags", letter := some 't', purpose := .value isFilled, repeatable := true },
    { name := "file", purpose := .value isFilled },
    { name := "format", purpose := .value ["text", "json"].contains },
    { name := "fail-on-empty", purpose := .flag }]
  limit := some 1

def checkLevel : Level where
  options := sharedOptions Help.check
  limit := none
  acceptsWord := isFilled

def initLevel : Level where
  options := sharedOptions Help.init ++ [{ name := "force", purpose := .flag }]
  limit := some 0

inductive Reading where
  | invocation (invocation : Invocation)
  | print (text : String)
  | misuse
deriving DecidableEq, Repr

def Reading.ofHalt : Halt → Reading
  | .misuse => misuse
  | .print text => print text

def completionOf (given : Given) : Option Task :=
  given.words.head?.map fun pattern => .complete {
    pattern
    tags := (given.valuesOf "tags").map Path.mk
    file := (given.value? "file").map Path.mk
    format := if given.value? "format" = some "json" then .json else .text
    failOnEmpty := given.has "fail-on-empty" }

def checkOf (given : Given) : Option Task :=
  if given.words.isEmpty then none else some (.check (given.words.map Path.mk))

def commandNamed? (name : String) : Option (Level × (Given → Option Task)) :=
  match name with
  | "complete" => some (completeLevel, completionOf)
  | "check" => some (checkLevel, checkOf)
  | "init" => some (initLevel, fun given => some (.init (given.has "force")))
  | _ => none

/-- Options count before the command and after it; a value after it goes first. -/
def invocationOf (outer inner : Given) (task : Task) : Invocation where
  task
  config := ((inner.value? "config").or (outer.value? "config")).map Path.mk
  verbose := outer.has "verbose" || inner.has "verbose"

def readCommand (outer : Given) (name : String) (arguments : List String) : Except Halt Invocation :=
  match commandNamed? name with
  | none => .error .misuse
  | some (level, taskOf) => do
    let (inner, _) ← level.read {} arguments
    let outer ← outer.settle
    match taskOf inner with
    | some task => return invocationOf outer inner task
    | none => throw .misuse

def readHelp : List String → Reading
  | [] => .print Help.overview
  | [name] => match Help.about? name with
    | some text => .print text
    | none => .misuse
  | _ => .misuse

def readArguments (arguments : List String) : Reading :=
  match topLevel.read {} arguments with
  | .error halt => .ofHalt halt
  | .ok (_, none) => .misuse
  | .ok (outer, some (name, rest)) =>
    if name = "help" then readHelp rest
    else
      match readCommand outer name rest with
      | .ok invocation => .invocation invocation
      | .error halt => .ofHalt halt

end TagMenu.Command
