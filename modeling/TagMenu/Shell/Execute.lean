import TagMenu.Shell.Call.Variables
import TagMenu.Shell.External
import TagMenu.Shell.Reader
import TagMenu.Shell.Redirect

namespace TagMenu.Shell

variable {m : Type → Type} [Monad m]

def afterwards {α : Type} (last : Run m Unit) (action : Run m α) : Run m α := do
  let result ← try
      pure (Except.ok (← action))
    catch stop => pure (Except.error stop)
  last
  match result with
  | .ok value => return value
  | .error stop => throw stop

def stopOf? (action : Run m Unit) : Run m (Option Stop) := do
  try
    action
    return none
  catch stop => return some stop

def keepingDescriptors {α : Type} (action : Run m α) : Run m α := do
  let descriptors := (← session).descriptors
  afterwards (modifySession fun s => { s with descriptors }) action

def keepingVariables {α : Type} (action : Run m α) : Run m α := do
  modifySession fun s => { s with saved := [] :: s.saved }
  afterwards Call.putBackSaved action

def Session.apart (s : Session) : Session :=
  { s with
    traps := s.traps.filter fun (_, action) => action.isEmpty
    final? := none
    signals := [] }

def killedStatus (signal : Nat) : Nat := 128 + signal

structure Invocation where
  fields : List Octets
  rest : List Word
  before : List Octets := []
  inner? : Option Callee
  standard : Bool := false
  /-- The first word is the name of a command of the shell itself that none takes the place of. -/
  isSpecial : Bool := false

def firstFields (expander : Expander m) : List Word → Run m (List Octets × List Word)
  | [] => return ([], [])
  | word :: rest => do
    match ← expandWord expander word with
    | [] => firstFields expander rest
    | fields => return (fields, rest)

def isPlainSearch (option : Octets) : Bool :=
  match option with
  | '-' :: c :: letters => (c :: letters).all (· == 'p')
  | _ => false

abbrev Reached := List Octets × List Word

def searched? (expander : Expander m) : Nat → List Octets → List Word →
    Run m (Option (Reached × Bool) × Reached)
  | 0, fields, rest => return (none, fields, rest)
  | bound + 1, fields, rest => do
    let (fields, rest) ← match fields with
      | [_] => do
        let (more, rest) ← firstFields expander rest
        pure (fields ++ more, rest)
      | fields => pure (fields, rest)
    match fields with
    | name :: option :: arguments =>
      if option = ['-', '-'] then
        let (found, rest') ← if arguments.isEmpty then firstFields expander rest
          else pure (arguments, rest)
        if found.isEmpty then return (none, fields, rest')
        else
          return (some ((found, rest'), false), fields ++ found.drop arguments.length, rest')
      else if isPlainSearch option then
        let (next?, all) ← searched? expander bound (name :: arguments) rest
        return (next?.map fun (reached, _) => (reached, true), all)
      else if option.head? = some '-' && option != ['-'] then return (none, fields, rest)
      else return (some ((option :: arguments, rest), false), fields, rest)
    | fields => return (none, fields, rest)

def invocationOf (expander : Expander m) (withFunctions : Bool) :
    Nat → List Octets → List Word → Run m Invocation
  | 0, fields, rest => return { fields, rest, inner? := none }
  | bound + 1, fields, rest => do
    let name := fields.head?.getD []
    let inner? ← innerCallee? withFunctions name
    match inner? with
    | some (.own ['c', 'o', 'm', 'm', 'a', 'n', 'd']) =>
      match ← searched? expander bound fields rest with
      | (none, fields, rest) => return { fields, rest, inner? }
      | (some ((fields, rest), standard), _) =>
        let found ← invocationOf expander false bound fields rest
        return { found with
          before := name :: found.before
          standard := standard || found.standard
          isSpecial := false }
    | some (.own own) => return { fields, rest, inner?, isSpecial := isSpecialCommand own }
    | _ => return { fields, rest, inner? }

def assigningCommands : List String := ["export", "readonly", "local", "alias"]

def Invocation.arguments (expander : Expander m) (invocation : Invocation) :
    Run m (List Octets) := do
  let assigns := match invocation.inner? with
    | some (.own name) => assigningCommands.contains name.toText
    | _ => false
  let more ← invocation.rest.mapM fun word => do
    if assigns && isAssignment word then
      return [← expandText expander .ofAssignment word]
    else expandWord expander word
  return invocation.fields.drop 1 ++ more.flatten

def trace (files : Files m) (channel? : Option Nat) (words : List Octets) : Run m Unit := do
  let s ← session
  if s.has .xtrace then
    if let some channel := channel? then
      let start := (s.valueOf "PS4").getD []
      let text := start ++ Octets.join [' '] words ++ ['\n']
      let _ ← writeChannel files channel text.toBytes

def mostDepth : Nat := 1000

def tooDeep : Octets := "Maximum function recursion depth (1000) reached".toList

def callOwn (files : Files m) (name : Octets) (arguments : List Octets) : Run m Nat := do
  match name.toText with
  | ":" | "true" => return 0
  | "false" => return 1
  | "[" =>
    if arguments.getLast? != some [']'] then refuse files "missing ]".toList
    return if ← holds files arguments.dropLast then 0 else 1
  | "test" => return if ← holds files arguments then 0 else 1
  | "alias" => Call.setAliases files arguments
  | "bg" | "fg" => Call.resume files arguments
  | "break" => Call.jump files false arguments
  | "cd" | "chdir" => Call.cd files arguments
  | "command" =>
    let (given, names) ← Call.options files [('p', false), ('v', false), ('V', false)] arguments
    let isVerbose := given.any fun (letter, _) => letter = 'V'
    match names, given.any fun (letter, _) => letter != 'p' with
    | name :: _, true =>
      let standard := given.any fun (letter, _) => letter = 'p'
      if isVerbose then Call.describe files standard name else Call.locate files standard name
    | _, _ => return 0
  | "continue" => Call.jump files true arguments
  | "echo" => Call.echo files arguments
  | "exit" => Call.exit files arguments
  | "export" => Call.export_ files arguments
  | "getopts" => Call.getopts files arguments
  | "hash" => Call.hash files arguments
  | "jobs" => Call.jobs files arguments
  | "kill" => Call.kill files arguments
  | "local" => Call.local_ files arguments
  | "printf" => Call.printf files arguments
  | "pwd" => Call.pwd files arguments
  | "read" => Call.read files arguments
  | "readonly" => Call.readonly files arguments
  | "return" => Call.return_ files arguments
  | "set" => Call.set_ files arguments
  | "shift" => Call.shift files arguments
  | "times" => Call.times files
  | "trap" => Call.trap files arguments
  | "type" => Call.type files arguments
  | "ulimit" =>
    Call.sayLine files "unlimited".toList
    return 0
  | "umask" => Call.umask files arguments
  | "unalias" => Call.unalias files arguments
  | "unset" => Call.unset files arguments
  | _ => return 0

def endRound : Run m Bool := do
  match (← session).skip with
  | .none => return true
  | .return_ => return false
  | .leave loops =>
    modifySession fun s => { s with skip := if loops ≤ 1 then .none else .leave (loops - 1) }
    return false
  | .again loops =>
    modifySession fun s => { s with skip := if loops ≤ 1 then .none else .again (loops - 1) }
    return loops ≤ 1

def inLoop {α : Type} (action : Run m α) : Run m α := do
  let loops := (← session).loops
  modifySession fun s => { s with loops := loops + 1 }
  afterwards (modifySession fun s => { s with loops }) action

def isSkipping : Run m Bool := return (← session).skip != .none

def refuseFault {α : Type} (files : Files m) (line : Nat) (fault : Fault) : Run m α := do
  modifySession fun s => { s with line }
  refuse files (("Syntax error: " ++ fault.message).toList)

def scriptFile (files : Files m) (name : Octets) : Run m Octets := do
  if name.contains '/' then return name
  let directories := Text.pieces ':' (((← session).valueOf "PATH").getD [])
  for directory in directories do
    let path := if directory.isEmpty then name else directory ++ '/' :: name
    if ← askFile files 'f' path then return path
  refuse files (name ++ ": not found".toList)

def startOptions (files : Files m) (isText : Bool) : Nat → List Octets →
    Run m (Bool × List Octets)
  | 0, arguments => return (isText, arguments)
  | _ + 1, [] => return (isText, [])
  | bound + 1, argument :: rest => do
    match argument with
    | ['-'] | ['-', '-'] => return (isText, rest)
    | '-' :: letters =>
      let asksText := letters.contains 'c'
      let letters := letters.filter fun c => c != 'c' && c != 'l'
      let rest ← Call.turnLetters files true letters rest
      startOptions files (isText || asksText) bound rest
    | '+' :: letters =>
      let rest ← Call.turnLetters files false letters rest
      startOptions files isText bound rest
    | _ => return (isText, argument :: rest)

def startScript (files : Files m) (program : Octets) (arguments : List Octets) :
    Run m (Octets × List Octets × Octets) := do
  modifySession fun s => { s with name := program, arguments := [], line := 0 }
  let (isText, operands) ← startOptions files false (arguments.length + 1) arguments
  match isText, operands with
  | true, [] => refuse files "-c requires an argument".toList
  | true, [text] => return (program, [], text)
  | true, text :: name :: arguments => return (name, arguments, text)
  | false, [] =>
    let text ← readable files 0
    return (program, [], text.toOption.getD [])
  | false, name :: arguments =>
    if (← session).has .stdin then
      let text ← readable files 0
      return (program, name :: arguments, text.toOption.getD [])
    else
      match ← outside (files.read (← pathOf name)) with
      | .ok content => return (name, arguments, Octets.ofBytes content)
      | .error .isADirectory => return (name, arguments, [])
      | .error failure => refuseOpening files name false (openingText failure false)

def startVariables (before : List (Octets × Variable)) (directory : Octets) :
    List (Octets × Variable) :=
  let known := before.filter fun (_, found) => found.exported && found.value?.isSome
  let own (name value : String) : Octets × Variable := (name.toList, { value? := some value.toList })
  [own "IFS" " \t\n", own "OPTIND" "1", own "PS1" "# ", own "PS2" "> ", own "PS4" "+ "].foldl
    (fun bindings (name, found) => setEntry name found bindings)
    (setEntry "PWD".toList { value? := some directory, exported := true } known)

def Input.ofText (text : Octets) : Input := { rest := text }

mutual

def runLines (files : Files m) (bound : Nat) (tested : Bool) (input : Input) (status : Nat) :
    Run m Nat :=
  match bound with
  | 0 => throw .endless
  | bound + 1 => do
    let state ← get
    let input := { input with
      aliases := state.session.aliases
      documents := []
      nextDocument := state.shared.nextDocument }
    match readLine.run input with
    | .error (line, fault) => refuseFault files line fault
    | .ok (body, input) =>
      modifyShared fun shared =>
        { shared with
          documents := input.documents ++ shared.documents
          nextDocument := input.nextDocument }
      match body with
      | none =>
        if input.rest.isEmpty then return status else runLines files bound tested input status
      | some command =>
        execute files bound tested command
        let status := (← session).status
        if ← isSkipping then return status else runLines files bound tested input status

def answerSignals (files : Files m) (bound : Nat) : Run m Unit :=
  match bound with
  | 0 => throw .endless
  | bound + 1 => do
    let s ← session
    match s.signals with
    | [] => return
    | signal :: rest =>
      modifySession fun s => { s with signals := rest }
      if let some action := s.traps.lookup signal then
        let _ ← runLines files bound false (.ofText action) 0
        unless (← session).skip = .return_ do setStatus s.status
      answerSignals files bound

def endSession (files : Files m) (bound : Nat) : Run m Unit :=
  match bound with
  | 0 => throw .endless
  | bound + 1 => do
    let s ← session
    if let some action := s.traps.lookup 0 then
      modifySession fun s =>
        { s with
          traps := eraseEntry 0 s.traps
          skip := .none
          loops := 0
          final? := none
          command? := none }
      match ← stopOf? do let _ ← runLines files bound false (.ofText action) 0 with
      | some (.killed process signal) => throw (.killed process signal)
      | some .endless => throw .endless
      | _ => modifySession fun after => { after with status := after.final?.getD s.status }

def inSubshell (files : Files m) (bound : Nat) (action : Run m Unit) : Run m Nat :=
  match bound with
  | 0 => throw .endless
  | bound + 1 => do
    let before ← session
    modifySession Session.apart
    let stop? ← stopOf? do
      let stop? ← stopOf? action
      match stop? with
      | some (.killed process signal) => throw (.killed process signal)
      | some .endless => throw .endless
      | _ => endSession files bound
    let status := (← session).status
    modifySession fun _ => before
    match stop? with
    | some (.killed process signal) => throw (.killed process signal)
    | some .endless => throw .endless
    | _ => return status % 256

def inSubshellWith (files : Files m) (bound : Nat) (descriptors : List (Nat × Nat))
    (action : Run m Unit) : Run m Nat :=
  match bound with
  | 0 => throw .endless
  | bound + 1 => do
    let jobs := (← get).shared.jobs.length
    let status ← inSubshell files bound do
      descriptors.forM fun (descriptor, channel) => connect descriptor channel
      action
    runJobs files bound jobs
    return status

def runJobs (files : Files m) (bound first : Nat) : Run m Unit :=
  match bound with
  | 0 => throw .endless
  | bound + 1 => do
    let jobs := (← get).shared.jobs
    match jobs.drop first with
    | [] => return
    | job :: rest =>
      modifyShared fun shared => { shared with jobs := jobs.take first ++ rest }
      let status ← inSubshell files bound do
        modifySession fun _ => job.session
        execute files bound false job.command
      modifyShared fun shared => { shared with ended := (job.process, status) :: shared.ended }
      runJobs files bound first

def capture (files : Files m) (bound : Nat) (body : Body) : Run m Octets :=
  match bound with
  | 0 => throw .endless
  | bound + 1 => do
    match body with
    | none =>
      modifySession fun s => { s with outputStatus := 0 }
      return []
    | some command =>
      let sink ← newChannel (.sink .empty)
      let status ← inSubshellWith files bound [(1, sink)] (execute files bound false command)
      modifySession fun s => { s with outputStatus := status }
      let text ← match ← channel? sink with
        | some (.sink taken) => pure (Octets.ofBytes taken)
        | _ => pure []
      setChannel sink .nothing
      return ((text.filter (· != '\x00')).reverse.dropWhile (· == '\n')).reverse

def execute (files : Files m) (bound : Nat) (tested : Bool) (command : Command) : Run m Unit :=
  match bound with
  | 0 => throw .endless
  | bound + 1 => do
    if (← session).has .noexec then return
    answerSignals files bound
    let mayFail ← perform files bound tested command
    answerSignals files bound
    let s ← session
    if s.has .errexit && !tested && !mayFail && s.status != 0 then throw .exit

def executeBody (files : Files m) (bound : Nat) (tested : Bool) (body : Body) : Run m Unit :=
  match bound, body with
  | 0, _ => throw .endless
  | _ + 1, none => setStatus 0
  | bound + 1, some command => execute files bound tested command

def perform (files : Files m) (bound : Nat) (tested : Bool) (command : Command) : Run m Bool :=
  match bound with
  | 0 => throw .endless
  | bound + 1 => do
    let expander : Expander m := { files, output := capture files bound }
    let atLine (line : Nat) : Run m Unit := modifySession fun s => { s with line }
    match command with
    | .simple line assignments words redirects =>
      atLine line
      performSimple files bound tested assignments words redirects
      return false
    | .pipeline commands =>
      setStatus (← performPipeline files bound tested none commands)
      return false
    | .background body =>
      let nothing ← newChannel .nothing
      modify fun state =>
        let process := state.shared.nextProcess
        let apart := state.session.apart
        let descriptors := setEntry 0 nothing apart.descriptors
        let job : Job := ⟨process, { apart with descriptors }, body⟩
        { session := { state.session with lastBackground := some process, status := 0 }
          shared := { state.shared with
            nextProcess := process + 1
            jobs := state.shared.jobs ++ [job] } }
      if let .pipeline commands := body then commands.forM (seek files)
      return false
    | .sequence first second =>
      execute files bound tested first
      unless ← isSkipping do execute files bound tested second
      return true
    | .both first second =>
      execute files bound true first
      if (← session).status = 0 && !(← isSkipping) then execute files bound tested second
      return true
    | .either first second =>
      execute files bound true first
      if (← session).status != 0 && !(← isSkipping) then execute files bound tested second
      return true
    | .negate body =>
      execute files bound true body
      unless ← isSkipping do
        modifySession fun s => { s with status := if s.status = 0 then 1 else 0 }
      return true
    | .branch test body otherwise =>
      executeBody files bound true test
      unless ← isSkipping do
        if (← session).status = 0 then executeBody files bound tested body
        else executeBody files bound tested otherwise
      return true
    | .loop isUntil test body =>
      setStatus (← inLoop (performLoop files bound tested isUntil test body 0))
      return true
    | .each line name words body =>
      atLine line
      let fields ← expandWords expander words
      setStatus (← inLoop (performEach files bound tested name body 0 fields))
      return true
    | .choose line word cases =>
      atLine line
      let text ← expandText expander .ofText word
      performCases files bound tested text cases
      return true
    | .define line name body =>
      modifySession fun s =>
        { s with functions := setEntry name ⟨line, body⟩ s.functions, status := 0 }
      return true
    | .subshell line body redirects =>
      atLine line
      let routes ← routesOf expander redirects
      setStatus (← inSubshell files bound do
        if (← followAll expander routes) = 0 then executeBody files bound tested body
        else throw .error)
      return false
    | .redirected line body redirects =>
      atLine line
      let routes ← routesOf expander redirects
      keepingDescriptors do
        match ← followAll expander routes with
        | 0 =>
          executeBody files bound tested body
          return true
        | status =>
          setStatus status
          return false

def performPipeline (files : Files m) (bound : Nat) (tested : Bool) (source? : Option Nat)
    (commands : List Command) : Run m Nat :=
  match bound, commands with
  | 0, _ => throw .endless
  | _ + 1, [] => return 0
  | bound + 1, [command] => do
    let sources := (source?.map fun source => (0, source)).toList
    seek files command
    inSubshellWith files bound sources (execute files bound tested command)
  | bound + 1, command :: rest => do
    let sources := (source?.map fun source => (0, source)).toList
    let pipe ← newChannel (.sink .empty)
    seek files command
    let _ ← inSubshellWith files bound (sources ++ [(1, pipe)]) (execute files bound tested command)
    match ← channel? pipe with
    | some (.sink taken) => setChannel pipe (.source (Octets.ofBytes taken))
    | _ => pure ()
    performPipeline files bound tested (some pipe) rest

def performLoop (files : Files m) (bound : Nat) (tested isUntil : Bool) (test body : Body)
    (status : Nat) : Run m Nat :=
  match bound with
  | 0 => throw .endless
  | bound + 1 => do
    executeBody files bound true test
    let found := (← session).status
    if ← isSkipping then
      let returns := (← session).skip = .return_
      let status := if returns then found else status
      if ← endRound then performLoop files bound tested isUntil test body status else return status
    else if (found = 0) = isUntil then return status
    else
      executeBody files bound tested body
      let status := (← session).status
      if ← endRound then performLoop files bound tested isUntil test body status else return status

def performEach (files : Files m) (bound : Nat) (tested : Bool) (name : Octets) (body : Body)
    (status : Nat) (values : List Octets) : Run m Nat :=
  match bound, values with
  | 0, _ => throw .endless
  | _ + 1, [] => return status
  | bound + 1, value :: rest => do
    assign files name value
    executeBody files bound tested body
    let status := (← session).status
    if ← endRound then performEach files bound tested name body status rest else return status

def performCases (files : Files m) (bound : Nat) (tested : Bool) (text : Octets)
    (cases : List (List Word × Body)) : Run m Unit :=
  match bound, cases with
  | 0, _ => throw .endless
  | _ + 1, [] => setStatus 0
  | bound + 1, (forms, body) :: rest => do
    let expander : Expander m := { files, output := capture files bound }
    let fits ← forms.anyM fun form => return (← expandForm expander form).matches text
    if fits then executeBody files bound tested body
    else performCases files bound tested text rest

def performSimple (files : Files m) (bound : Nat) (tested : Bool) (assignments words : List Word)
    (redirects : List Redirect) : Run m Unit :=
  match bound with
  | 0 => throw .endless
  | bound + 1 => do
    let expander : Expander m := { files, output := capture files bound }
    modifySession fun s => { s with outputStatus := 0 }
    let traced ← channelOf? 2
    match ← firstFields expander words with
    | ([], _) =>
      let routes ← routesOf expander redirects
      keepingDescriptors do
        match ← followAll expander routes with
        | 0 =>
          let shown ← assignments.mapM fun word => do
            let text ← expandText expander .ofAssignment word
            let (name, value?) := Call.namedValue text
            assign files name (value?.getD [])
            return text
          trace files traced shown
          setStatus (← session).outputStatus
        | status => setStatus status
    | (fields, rest) =>
      let invocation ← invocationOf expander true (words.length + fields.length + 1) fields rest
      let arguments ← invocation.arguments expander
      let name := invocation.fields.head?.getD []
      let isExec := match invocation.inner? with
        | some (.own name) => name = "exec".toList
        | _ => false
      let call : Run m Unit := do
        let routes ← routesOf expander redirects
        match ← followAll expander routes with
        | 0 =>
          let shown ← assignments.mapM fun word => do
            let text ← expandText expander .ofAssignment word
            let (name, value?) := Call.namedValue text
            if invocation.isSpecial then
              assignAs files (isExec && !arguments.isEmpty) name (value?.getD [])
            else Call.keepApart files true name value?
            return text
          trace files traced (shown ++ invocation.before ++ name :: arguments)
          let callee ← match invocation.inner? with
            | some callee => pure callee
            | none => outerCallee files invocation.standard name
          callCommand files bound tested invocation.isSpecial callee name arguments
        | status =>
          setStatus status
          if invocation.isSpecial then throw .error
      let guarded := if invocation.isSpecial then call else keepingVariables call
      if isExec then guarded else keepingDescriptors guarded

/-- Calls a command. An error in one that is not special is an end to that command alone. -/
def callCommand (files : Files m) (bound : Nat) (tested isSpecial : Bool) (callee : Callee)
    (name : Octets) (arguments : List Octets) : Run m Unit :=
  match bound with
  | 0 => throw .endless
  | bound + 1 => do
    match callee with
    | .missing =>
      complain files (name ++ ": not found".toList)
      setStatus 127
    | .denied =>
      complain files (name ++ ": Permission denied".toList)
      setStatus (if name.contains '/' then 126 else 127)
    | .program program => setStatus (← runProgram files bound name program arguments)
    | .function function => callFunction files bound tested function arguments
    | .own own =>
      let before := (← session).command?
      modifySession fun s => { s with command? := some name, outputLost := false }
      try
        afterwards (modifySession fun s => { s with command? := before }) do
          let status ← match own.toText with
            | "." => readScript files bound arguments
            | "eval" => runLines files bound tested (.ofText (Octets.join [' '] arguments)) 0
            | "exec" => replaceShell files bound arguments
            | "wait" =>
              runJobs files bound 0
              Call.wait files arguments
            | _ => callOwn files own arguments
          if (← session).outputLost then
            complain files (name ++ ": I/O error".toList)
            modifySession fun s => { s with outputLost := false }
            setStatus (status ||| 1)
          else setStatus status
      catch
        | .error => if isSpecial then throw .error
        | stop => throw stop

def callFunction (files : Files m) (bound : Nat) (tested : Bool) (function : Function)
    (arguments : List Octets) : Run m Unit :=
  match bound with
  | 0 => throw .endless
  | bound + 1 => do
    let before ← session
    if before.depth ≥ mostDepth then refuse files tooDeep
    modifySession fun s =>
      { s with
        arguments, loops := 0, depth := before.depth + 1, optionIndex := 1, optionPlace := none }
    let restore : Run m Unit := modifySession fun s =>
      { s with
        arguments := before.arguments
        depth := before.depth
        loops := before.loops
        optionIndex := before.optionIndex
        optionPlace := before.optionPlace }
    afterwards restore (execute files bound tested function.body)
    modifySession fun s => { s with skip := if s.skip = .return_ then .none else s.skip }

def readScript (files : Files m) (bound : Nat) (arguments : List Octets) : Run m Nat :=
  match bound with
  | 0 => throw .endless
  | bound + 1 => do
    match ← Call.operands files arguments with
    | [] => return 0
    | name :: _ =>
      let path ← scriptFile files name
      match ← outside (files.read (← pathOf path)) with
      | .error .isADirectory => return 0
      | .error failure => refuseOpening files path false (openingText failure false)
      | .ok content =>
        modifySession fun s => { s with command? := some path }
        let status ← runLines files bound false (.ofText (Octets.ofBytes content)) 0
        modifySession fun s => { s with skip := if s.skip = .return_ then .none else s.skip }
        return status

def replaceShell (files : Files m) (bound : Nat) (arguments : List Octets) : Run m Nat :=
  match bound with
  | 0 => throw .endless
  | bound + 1 => do
    match ← Call.operands files arguments with
    | [] => return 0
    | name :: arguments =>
      match ← lookUp files false name with
      | .found path =>
        let status ← runProgram files bound name ((programAt? path).getD []) arguments
        modifySession fun s => { s with traps := eraseEntry 0 s.traps, status }
        throw .exit
      | .denied =>
        complain files (name ++ ": Permission denied".toList)
        setStatus 126
        throw .exit
      | .missing =>
        complain files (name ++ ": not found".toList)
        setStatus 127
        throw .exit

def runProgram (files : Files m) (bound : Nat) (program name : Octets) (arguments : List Octets) :
    Run m Nat :=
  match bound with
  | 0 => throw .endless
  | bound + 1 => do
    if name != "sh".toList then External.run files program name arguments
    else
      let process := (← get).shared.nextProcess
      modifyShared fun shared => { shared with nextProcess := process + 1 }
      let before ← session
      try
        afterwards (modifySession fun _ => before)
          (runShell files bound process program arguments)
      catch
        | .killed killed signal =>
          if killed != process then throw (.killed killed signal)
          if let some text := Signal.farewell signal then Call.sayAside files text.toList
          return killedStatus signal
        | stop => throw stop

def runShell (files : Files m) (bound : Nat) (process : Nat) (program : Octets)
    (arguments : List Octets) : Run m Nat :=
  match bound with
  | 0 => throw .endless
  | bound + 1 => do
    modifySession fun before =>
      { name := program
        arguments := []
        process
        directory := before.directory
        bindings := startVariables before.bindings before.directory
        descriptors := before.descriptors
        mask := before.mask }
    let stop? ← stopOf? do
      let (name, arguments, text) ← startScript files program arguments
      modifySession fun s => { s with name, arguments }
      Call.leaveJobs files
      modifySession fun s => { s with line := 1 }
      let status ← runLines files bound false (.ofText text) 0
      setStatus status
    match stop? with
    | some (.killed process signal) => throw (.killed process signal)
    | some .endless => throw .endless
    | _ =>
      endSession files bound
      let status := (← session).status
      runJobs files bound 0
      return status % 256

end

end TagMenu.Shell
