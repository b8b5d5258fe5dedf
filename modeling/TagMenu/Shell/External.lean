import TagMenu.Shell.Call.Printing
import TagMenu.Shell.Call.System

namespace TagMenu.Shell.External

open Call (say sayLine sayAside)

variable {m : Type → Type} [Monad m]

def hint (program : Octets) : Octets :=
  "Try '".toList ++ program ++ " --help' for more information.".toList

def complain (files : Files m) (program text : Octets) : Run m Unit :=
  sayAside files (program ++ ": ".toList ++ text)

structure View where
  numbers : Bool := false
  fullLines : Bool := false
  squeezed : Bool := false
  ends : Bool := false
  tabs : Bool := false
  controls : Bool := false
deriving DecidableEq

namespace View

def addLetter? (view : View) : Char → Option View
  | 'A' => some { view with controls := true, ends := true, tabs := true }
  | 'b' => some { view with numbers := true, fullLines := true }
  | 'e' => some { view with controls := true, ends := true }
  | 'E' => some { view with ends := true }
  | 'n' => some { view with numbers := true }
  | 's' => some { view with squeezed := true }
  | 't' => some { view with controls := true, tabs := true }
  | 'T' => some { view with tabs := true }
  | 'u' => some view
  | 'v' => some { view with controls := true }
  | _ => none

def longOptions : List (String × Char) :=
  [("show-all", 'A'), ("number-nonblank", 'b'), ("show-ends", 'E'), ("number", 'n'),
    ("squeeze-blank", 's'), ("show-tabs", 'T'), ("show-nonprinting", 'v')]

def shownControl (code : Nat) : Octets :=
  if code < 0x20 then ['^', Char.ofNat (code + 0x40)]
  else if code = 0x7F then ['^', '?']
  else [Char.ofNat code]

def shown (view : View) (c : Char) : Octets :=
  if c = '\t' then (if view.tabs then ['^', 'I'] else [c])
  else if !view.controls then [c]
  else if c.toNat < 0x80 then shownControl c.toNat
  else 'M' :: '-' :: shownControl (c.toNat - 0x80)

def line (view : View) (number : Nat) (text : Octets) : Octets :=
  let digits := (toString number).toList
  let start := if view.numbers && !(view.fullLines && text.isEmpty) then
      List.replicate (6 - digits.length) ' ' ++ digits ++ ['\t']
    else []
  start ++ text.flatMap view.shown

def lines (view : View) (number : Nat) (afterEmpty : Bool) : List Octets → Octets
  | [] => []
  | [last] => if last.isEmpty then [] else view.line number last
  | text :: next :: rest =>
    if view.squeezed && afterEmpty && text.isEmpty then
      lines view number true (next :: rest)
    else
      let counts := !(view.fullLines && text.isEmpty)
      view.line number text ++ (if view.ends then ['$', '\n'] else ['\n'])
        ++ lines view (if counts then number + 1 else number) text.isEmpty (next :: rest)

def text (view : View) (content : Octets) : Octets :=
  if view = {} then content else view.lines 1 false (Text.pieces '\n' content)

end View

/-- The options among arguments, wherever they stand, and the operands; nothing, after a diagnostic,
    if there is an option that is unknown. -/
def viewOf (files : Files m) (program : Octets) (view : View) :
    List Octets → Run m (Option (View × List Octets))
  | [] => return some (view, [])
  | ['-', '-'] :: rest => return some (view, rest)
  | ('-' :: '-' :: name) :: rest => do
    match (View.longOptions.lookup (Octets.toText name)).bind view.addLetter? with
    | some view => viewOf files program view rest
    | none =>
      complain files program ("unrecognized option '--".toList ++ name ++ ['\''])
      sayAside files (hint program)
      return none
  | ('-' :: c :: letters) :: rest => do
    let added := (c :: letters).foldl (fun (found : Except Char View) letter =>
      found.bind fun view => match view.addLetter? letter with
        | some view => .ok view
        | none => .error letter) (.ok view)
    match added with
    | .ok view => viewOf files program view rest
    | .error letter =>
      complain files program ("invalid option -- '".toList ++ letter :: ['\''])
      sayAside files (hint program)
      return none
  | operand :: rest =>
    return (← viewOf files program view rest).map fun (view, operands) =>
      (view, operand :: operands)

def isOutput (path : Path) : Run m Bool := do
  match ← channelOf? 1 with
  | none => return false
  | some number =>
    match ← channel? number with
    | some (.file output ..) => return output.same path
    | _ => return false

def contentOf (files : Files m) (operand : Octets) : Run m (Except String Octets) := do
  if operand = ['-'] then
    let content ← readable files 0
    if let .ok text := content then advance 0 text.length
    return content
  else if isNowhere operand then return .ok []
  else
    let path ← pathOf operand
    match ← outside (files.read path) with
    | .error failure => return .error failure.reason
    | .ok content =>
      if content.size != 0 && (← isOutput path) then
        return .error "input file is output file"
      else return .ok (Octets.ofBytes content)

def concatenate (files : Files m) (program : Octets) (arguments : List Octets) : Run m Nat := do
  let some (view, operands) ← viewOf files program {} arguments | return 1
  if (← channelOf? 1).isNone then
    complain files program "standard output: Bad file descriptor".toList
    return 1
  let mut status := 0
  let mut all : List Octets := []
  for operand in if operands.isEmpty then [['-']] else operands do
    match ← contentOf files operand with
    | .ok text => all := text :: all
    | .error reason =>
      complain files program (operand ++ ": ".toList ++ reason.toList)
      status := 1
  unless ← write files 1 (view.text all.reverse.flatten) do
    complain files program "write error: Bad file descriptor".toList
    status := 1
  return status

def inQuotes (text : Octets) : Octets := '\'' :: text ++ ['\'']

def dialect : Dialect where
  moreEscapes := true
  idleLetters := ['h', 'l', 'L', 'j', 't', 'z']
  notNumeric argument := inQuotes argument ++ ": expected a numeric value".toList
  notWhole argument := inQuotes argument ++ ": value not completely converted".toList
  outOfRange argument := inQuotes argument ++ ": Numerical result out of range".toList
  noLetter place := place ++ ": invalid conversion specification".toList
  unknownLetter place := place ++ ": invalid conversion specification".toList

def printf (files : Files m) (program : Octets) (arguments : List Octets) : Run m Nat := do
  match if arguments.head? = some ['-', '-'] then arguments.drop 1 else arguments with
  | [] =>
    complain files program "missing operand".toList
    sayAside files (hint program)
    return 1
  | form :: arguments =>
    let printed := format dialect form arguments
    let _ ← write files 1 printed.text
    printed.complaints.forM (complain files program)
    if let some fault := printed.fault? then
      complain files program fault
      return 1
    if let unused :: _ := printed.unused then
      complain files program
        ("warning: ignoring excess arguments, starting with ".toList ++ inQuotes unused)
    return if printed.complaints.isEmpty then 0 else 1

def echo (files : Files m) (escapes lineEnd : Bool) : List Octets → Run m Nat
  | ('-' :: c :: letters) :: rest => do
    if (c :: letters).all fun letter => letter = 'n' || letter = 'e' || letter = 'E' then
      let last? := (c :: letters).reverse.find? fun letter => letter != 'n'
      let escapes := (last?.map (· == 'e')).getD escapes
      echo files escapes (lineEnd && !(c :: letters).contains 'n') rest
    else printAll escapes lineEnd (('-' :: c :: letters) :: rest)
  | arguments => printAll escapes lineEnd arguments
where
  printAll (escapes lineEnd : Bool) (arguments : List Octets) : Run m Nat := do
    let text := Octets.join [' '] arguments
    let (text, ends) := if escapes then unescaped true text else (text, false)
    let _ ← write files 1 (if lineEnd && !ends then text ++ ['\n'] else text)
    return 0

def withoutSlashes (path : Octets) : Octets :=
  let kept := (path.reverse.dropWhile (· == '/')).reverse
  if kept.isEmpty && !path.isEmpty then ['/'] else kept

def baseName (path : Octets) : Octets :=
  let path := withoutSlashes path
  if path = ['/'] then path else (path.reverse.takeWhile (· != '/')).reverse

def directoryName (path : Octets) : Octets :=
  let path := withoutSlashes path
  let before := path.take (path.length - (baseName path).length)
  if path = ['/'] then path else if before.isEmpty then ['.'] else withoutSlashes before

def withoutEnding (ending name : Octets) : Octets :=
  if ending != name && ending.isSuffixOf name then name.take (name.length - ending.length) else name

def run (files : Files m) (program name : Octets) (arguments : List Octets) : Run m Nat := do
  match name.toText, arguments with
  | "cat", arguments => concatenate files program arguments
  | "printf", arguments => printf files program arguments
  | "echo", arguments => echo files false true arguments
  | "true", _ => return 0
  | "pwd", _ =>
    sayLine files (← session).directory
    return 0
  | "basename", [path] =>
    sayLine files (baseName path)
    return 0
  | "basename", [path, ending] =>
    sayLine files (withoutEnding ending (baseName path))
    return 0
  | "dirname", path :: rest =>
    (path :: rest).forM fun path => sayLine files (directoryName path)
    return 0
  | "basename", _ | "dirname", _ =>
    complain files program "missing operand".toList
    sayAside files (hint program)
    return 1
  | "test", arguments => return if ← holds files arguments then 0 else 1
  | "[", arguments => return if ← holds files arguments.dropLast then 0 else 1
  | _, _ => return 1

end TagMenu.Shell.External
