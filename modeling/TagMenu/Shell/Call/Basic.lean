import TagMenu.Shell.Session

namespace TagMenu.Shell.Call

variable {m : Type → Type} [Monad m]

def say (files : Files m) (text : Octets) : Run m Unit := do
  unless ← write files 1 text do modifySession fun s => { s with outputLost := true }

def sayLine (files : Files m) (text : Octets) : Run m Unit := say files (text ++ ['\n'])

def sayAside (files : Files m) (text : Octets) : Run m Unit := do
  let _ ← write files 2 (text ++ ['\n'])

/-- A text between quotes, as a script could hold it. Quotes in it stand between quotes of the other
    kind. There are at most `bound` characters. -/
def quoteWithin : Nat → Octets → Octets
  | 0, _ => []
  | bound + 1, text =>
    let plain := text.takeWhile (· != '\'')
    let rest := text.drop plain.length
    let quotes := rest.takeWhile (· == '\'')
    let rest := rest.drop quotes.length
    let start := '\'' :: plain ++ ['\'']
    if quotes.isEmpty then start
    else
      let text := start ++ '"' :: quotes ++ ['"']
      if rest.isEmpty then text else text ++ quoteWithin bound rest

def quoted (text : Octets) : Octets := quoteWithin (text.length + 1) text

def countArgument (files : Files m) (text : Octets) : Run m Nat := do
  match wholeNumber? text with
  | some number => return number
  | none => refuse files ("Illegal number: ".toList ++ text)
where
  wholeNumber? (text : Octets) : Option Nat :=
    let digits := text.dropWhile Octets.isSpace
    let digits := match digits with
      | '+' :: rest => rest
      | digits => digits
    let number := Text.numeral 10 ((digits.takeWhile Char.isDigit).filterMap Text.decimalValue?)
    let fits := number ≤ 0x7FFFFFFF && !(digits.takeWhile Char.isDigit).isEmpty
    if fits && (digits.dropWhile Char.isDigit).all Octets.isSpace then some number else none

abbrev Given := Char × Octets

/-- The options at the start of arguments, and the arguments after them. An option has an argument if
    `allowed` says so. `letters` are left of the argument before. There are at most `bound` steps. -/
def takeOptions (files : Files m) (allowed : List (Char × Bool)) :
    Nat → Octets → List Octets → Run m (List Given × List Octets)
  | 0, _, arguments => return ([], arguments)
  | bound + 1, [], arguments =>
    match arguments with
    | ['-', '-'] :: rest => return ([], rest)
    | ('-' :: letter :: letters) :: rest => takeOptions files allowed bound (letter :: letters) rest
    | arguments => return ([], arguments)
  | bound + 1, letter :: letters, arguments => do
    match allowed.lookup letter, letters, arguments with
    | none, _, _ => refuse files ("Illegal option -".toList ++ [letter])
    | some false, letters, arguments =>
      let (options, rest) ← takeOptions files allowed bound letters arguments
      return ((letter, []) :: options, rest)
    | some true, [], [] => refuse files ("No arg for -".toList ++ letter :: " option".toList)
    | some true, [], argument :: rest =>
      let (options, rest) ← takeOptions files allowed bound [] rest
      return ((letter, argument) :: options, rest)
    | some true, argument, arguments =>
      let (options, rest) ← takeOptions files allowed bound [] arguments
      return ((letter, argument) :: options, rest)

def options (files : Files m) (allowed : List (Char × Bool)) (arguments : List Octets) :
    Run m (List Given × List Octets) :=
  let letters := (arguments.map List.length).foldl (· + ·) 0
  takeOptions files allowed (letters + arguments.length + 1) [] arguments

def operands (files : Files m) (arguments : List Octets) : Run m (List Octets) :=
  return (← options files [] arguments).2

end TagMenu.Shell.Call
