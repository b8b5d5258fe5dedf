import TagMenu.Shell.Call.Basic

namespace TagMenu.Shell.Call

variable {m : Type → Type} [Monad m]

def showVariables (files : Files m) (before : String) (isShown : Variable → Bool) : Run m Unit := do
  let shown := (← session).bindings.filter fun (_, found) => isShown found
  let sorted := shown.mergeSort fun (a, _) (b, _) => !Octets.before b a
  sorted.forM fun (name, found) =>
    let value := match found.value? with
      | some value => '=' :: quoted value
      | none => []
    sayLine files (before.toList ++ name ++ value)

def namedValue (argument : Octets) : Octets × Option Octets :=
  let name := argument.takeWhile (· != '=')
  match argument.drop name.length with
  | _ :: value => (name, some value)
  | [] => (name, none)

def markVariable (files : Files m) (mark : Variable → Variable) (argument : Octets) :
    Run m Unit := do
  let (name, value?) := namedValue argument
  unless isName name do refuse files (name ++ ": bad variable name".toList)
  if let some value := value? then assign files name value
  let found := ((← session).binding? name).getD { value? := none }
  setVariable name (some (mark found))

def export_ (files : Files m) (arguments : List Octets) : Run m Nat := do
  let (given, names) ← options files [('p', false)] arguments
  if given.isEmpty && !names.isEmpty then
    names.forM (markVariable files fun found => { found with exported := true })
  else showVariables files "export " (·.exported)
  return 0

def readonly (files : Files m) (arguments : List Octets) : Run m Nat := do
  let (given, names) ← options files [('p', false)] arguments
  if given.isEmpty && !names.isEmpty then
    names.forM (markVariable files fun found => { found with fixed := true })
  else showVariables files "readonly " (·.fixed)
  return 0

def unsetVariable (files : Files m) (name : Octets) : Run m Unit := do
  unless isName name do refuse files (name ++ ": bad variable name".toList)
  if let some found := (← session).binding? name then
    if found.fixed then refuse files (name ++ ": is read only".toList)
    setVariable name none

def unset (files : Files m) (arguments : List Octets) : Run m Nat := do
  let (given, names) ← options files [('v', false), ('f', false)] arguments
  let isFunction := given.getLast?.any fun (letter, _) => letter = 'f'
  names.forM fun name => do
    if isFunction then
      modifySession fun s => { s with functions := eraseEntry name s.functions }
    else unsetVariable files name
  return 0

def turn (switch : Switch) (on : Bool) : Run m Unit :=
  modifySession fun s =>
    let others := s.switches.filter (· != switch)
    { s with switches := if on then others ++ [switch] else others }

def showSwitches (files : Files m) (asCommands : Bool) : Run m Unit := do
  let s ← session
  unless asCommands do sayLine files "Current option settings".toList
  Switch.all.forM fun switch => do
    let name := switch.name.toList
    let isOn := s.has switch
    if asCommands then
      sayLine files ((if isOn then "set -o ".toList else "set +o ".toList) ++ name)
    else
      let blanks := List.replicate (16 - name.length) ' '
      sayLine files (name ++ blanks ++ (if isOn then "on".toList else "off".toList))

def turnLetter (files : Files m) (letter : Char) (on : Bool) : Run m Unit := do
  match Switch.ofLetter? letter with
  | some switch => turn switch on
  | none => refuse files ("Illegal option -".toList ++ [letter])

def turnLetters (files : Files m) (on : Bool) : Octets → List Octets → Run m (List Octets)
  | [], arguments => return arguments
  | 'o' :: letters, arguments => do
    match arguments with
    | [] => showSwitches files (!on)
    | name :: _ =>
      match Switch.ofName? name with
      | some switch => turn switch on
      | none => refuse files ("Illegal option -o ".toList ++ name)
    turnLetters files on letters (arguments.drop 1)
  | letter :: letters, arguments => do
    turnLetter files letter on
    turnLetters files on letters arguments

def setArguments (arguments : List Octets) : Run m Unit :=
  modifySession fun s => { s with arguments, optionIndex := 1, optionPlace := none }

def turnSwitches (files : Files m) : Nat → List Octets → Run m (Option (List Octets))
  | _, [] => return none
  | _, ['-'] :: rest => do
    turn .xtrace false
    turn .verbose false
    return if rest.isEmpty then none else some rest
  | _, ['-', '-'] :: rest => return some rest
  | 0, arguments => return some arguments
  | bound + 1, ('-' :: letters) :: rest => do
    let rest ← turnLetters files true letters rest
    turnSwitches files bound rest
  | bound + 1, ('+' :: letters) :: rest => do
    let rest ← turnLetters files false letters rest
    turnSwitches files bound rest
  | _ + 1, arguments => return some arguments

def leaveJobs (files : Files m) : Run m Unit := do
  let s ← session
  if s.has .monitor || s.has .interactive && s.line = 0 then
    complain files "can't access tty; job control turned off".toList
    turn .monitor false

def set_ (files : Files m) (arguments : List Octets) : Run m Nat := do
  if arguments.isEmpty then showVariables files "" (·.value?.isSome)
  else
    let operands? ← turnSwitches files arguments.length arguments
    leaveJobs files
    operands?.forM setArguments
  return 0

def shift (files : Files m) (arguments : List Octets) : Run m Nat := do
  let count ← match arguments with
    | [] => pure 1
    | argument :: _ => countArgument files argument
  let s ← session
  if count > s.arguments.length then refuse files "can't shift that many".toList
  setArguments (s.arguments.drop count)
  return 0

def save (entry : Saved) : Run m Unit :=
  modifySession fun s =>
    { s with
      saved := match s.saved with
        | [] => []
        | entries :: outer => (entry :: entries) :: outer }

def keepApart (files : Files m) (exported : Bool) (name : Octets) (value? : Option Octets) :
    Run m Unit := do
  let before := (← session).binding? name
  save (.variable_ name before)
  match before, value? with
  | none, none =>
    unless isName name do refuse files (name ++ ": bad variable name".toList)
    setVariable name (some { value? := none, exported })
  | _, some value => assignAs files exported name value
  | some _, none => return

def local_ (files : Files m) (arguments : List Octets) : Run m Nat := do
  if (← session).saved.isEmpty then refuse files "not in a function".toList
  arguments.forM fun argument => do
    if argument = ['-'] then save (.switches (← session).switches)
    else
      let (name, value?) := namedValue argument
      keepApart files false name value?
  return 0

def putBackSaved : Run m Unit :=
  modifySession fun s =>
    match s.saved with
    | [] => s
    | entries :: saved =>
      let restored := entries.foldl (fun s entry =>
        match entry with
        | .variable_ name found? => s.binding name found?
        | .switches before => { s with switches := before }) s
      { restored with saved }

def nextOption (index : Nat) (place : Option Nat) (arguments : List Octets) :
    Nat × Option (Char × Octets) :=
  let left := match place with
    | some place => (arguments[index - 2]?.getD []).drop place
    | none => []
  match left, arguments[index - 1]? with
  | c :: rest, _ => (index, some (c, rest))
  | [], some ['-', '-'] => (index + 1, none)
  | [], some ('-' :: c :: rest) => (index + 1, some (c, rest))
  | [], _ => (index, none)

def wantsArgument? (letter : Char) : Octets → Option Bool
  | [] => none
  | c :: ':' :: rest => if c = letter then some true else wantsArgument? letter rest
  | c :: rest => if c = letter then some false else wantsArgument? letter rest

def noteOption (files : Files m) (name : Octets) (letter : Char) (index : Nat)
    (place : Option Nat) : Run m Unit := do
  assign files "OPTIND".toList (Octets.ofInt index)
  assign files name [letter]
  modifySession fun s => { s with optionIndex := index, optionPlace := place }

def getopts (files : Files m) (arguments : List Octets) : Run m Nat := do
  match arguments with
  | allowed :: name :: given =>
    let s ← session
    let arguments := if given.isEmpty then s.arguments else given
    let isPast := s.optionIndex > arguments.length + 1
    let index := if isPast then 1 else s.optionIndex
    let isQuiet := allowed.head? = some ':'
    let setArgument (text : Octets) := assign files "OPTARG".toList text
    match nextOption index (if isPast then none else s.optionPlace) arguments with
    | (index, none) =>
      noteOption files name '?' index none
      return 1
    | (index, some (letter, left)) =>
      let current := arguments[index - 2]?.getD []
      let place := some (current.length - left.length)
      match wantsArgument? letter (if isQuiet then allowed.drop 1 else allowed) with
      | none =>
        if isQuiet then setArgument [letter]
        else
          sayAside files ("Illegal option -".toList ++ [letter])
          setVariable "OPTARG".toList none
        noteOption files name '?' index place
      | some false =>
        setArgument []
        noteOption files name letter index place
      | some true =>
        match left, arguments[index - 1]? with
        | [], none =>
          if isQuiet then
            setArgument [letter]
            noteOption files name ':' index place
          else
            sayAside files ("No arg for -".toList ++ letter :: " option".toList)
            setVariable "OPTARG".toList none
            noteOption files name '?' index place
        | [], some argument =>
          setArgument argument
          noteOption files name letter (index + 1) none
        | left, _ =>
          setArgument left
          noteOption files name letter index none
      return 0
  | _ => refuse files "Usage: getopts optstring var [arg...]".toList

def aliasText (name text : Octets) : Octets := name ++ '=' :: quoted text

def setAliases (files : Files m) (arguments : List Octets) : Run m Nat := do
  if arguments.isEmpty then
    (← session).aliases.forM fun (name, text) => sayLine files (aliasText name text)
  let mut status := 0
  for argument in arguments do
    match namedValue argument with
    | (name, some text) =>
      modifySession fun s => { s with aliases := setEntry name text s.aliases }
    | (name, none) =>
      match (← session).aliases.lookup name with
      | some text => sayLine files (aliasText name text)
      | none =>
        sayAside files ("alias: ".toList ++ name ++ " not found".toList)
        status := 1
  return status

def unalias (files : Files m) (arguments : List Octets) : Run m Nat := do
  let (given, names) ← options files [('a', false)] arguments
  unless given.isEmpty do
    modifySession fun s => { s with aliases := [] }
    return 0
  let mut status := 0
  for name in names do
    if ((← session).aliases.lookup name).isNone then
      sayAside files ("unalias: ".toList ++ name ++ " not found".toList)
      status := 1
    modifySession fun s => { s with aliases := eraseEntry name s.aliases }
  return status

end TagMenu.Shell.Call
