import TagMenu.Shell.Call.Basic
import TagMenu.Shell.Field
import TagMenu.Shell.Format

namespace TagMenu.Shell.Call

variable {m : Type → Type} [Monad m]

/-- The texts of arguments with their escapes replaced and blanks between them. An escape can end
    all output; then there is no line end either. -/
def echoText (lineEnd : Octets) : List Octets → Octets
  | [] => lineEnd
  | [argument] =>
    let (text, ends) := unescaped false argument
    if ends then text else text ++ lineEnd
  | argument :: next :: rest =>
    let (text, ends) := unescaped false argument
    if ends then text else text ++ ' ' :: echoText lineEnd (next :: rest)

def echo (files : Files m) (arguments : List Octets) : Run m Nat := do
  match arguments with
  | ['-', 'n'] :: rest => say files (echoText [] rest)
  | arguments => say files (echoText ['\n'] arguments)
  return 0

def ownDialect : Dialect where
  moreEscapes := false
  idleLetters := []
  notNumeric argument := argument ++ ": expected numeric value".toList
  notWhole argument := argument ++ ": not completely converted".toList
  outOfRange argument := argument ++ ": Numerical result out of range".toList
  noLetter _ := "missing format character".toList
  unknownLetter place := place ++ ": invalid directive".toList

def printf (files : Files m) (arguments : List Octets) : Run m Nat := do
  match ← operands files arguments with
  | [] => refuse files "usage: printf format [arg ...]".toList
  | form :: arguments =>
    let printed := format ownDialect form arguments
    say files printed.text
    printed.complaints.forM (complain files)
    if let some fault := printed.fault? then refuse files fault
    return if printed.complaints.isEmpty then 0 else 1

structure LineRead where
  done : List Stretch := []
  current : List Cell := []
  count : Nat := 0
  ended : Bool := false

def LineRead.close (line : LineRead) : LineRead :=
  { line with done := ⟨.separators, line.current.reverse⟩ :: line.done, current := [] }

/-- Reads a line. Unless it is `raw` a backslash makes the next character no separator, or goes on
    with the next line. -/
def readLineFrom (raw : Bool) (line : LineRead) : Octets → LineRead
  | [] => line
  | '\\' :: rest =>
    if raw then
      readLineFrom raw { line with
        current := .letter false '\\' :: line.current, count := line.count + 1 } rest
    else
      match rest with
      | [] => { line with count := line.count + 1 }
      | '\n' :: rest =>
        let line := line.close
        readLineFrom raw { line with count := line.count + 2 } rest
      | c :: rest =>
        let line := line.close
        readLineFrom raw
          { line with done := ⟨.nothing, [.letter true c]⟩ :: line.done, count := line.count + 2 } rest
  | '\n' :: _ => { line with count := line.count + 1, ended := true }
  | '\x00' :: rest => readLineFrom raw { line with count := line.count + 1 } rest
  | c :: rest =>
    readLineFrom raw
      { line with current := .letter false c :: line.current, count := line.count + 1 } rest

def assignFields (files : Files m) : List Octets → List (List Cell) → Run m Unit
  | [], _ => return
  | name :: names, fields => do
    assign files name (textOf (fields.head?.getD []))
    assignFields files names (fields.drop 1)

def read (files : Files m) (arguments : List Octets) : Run m Nat := do
  let (given, names) ← options files [('p', true), ('r', false)] arguments
  if names.isEmpty then refuse files "arg count".toList
  let text := match ← readable files 0 with
    | .ok text => text
    | .error _ => []
  let line := (readLineFrom (given.any fun (letter, _) => letter = 'r') {} text).close
  advance 0 line.count
  assignFields files names (fieldsOf (← separators) (some names.length) line.done.reverse)
  return if line.ended then 0 else 1

end TagMenu.Shell.Call
