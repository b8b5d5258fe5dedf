import TagMenu.Shell.Fields
import TagMenu.Shell.Numeral
import TagMenu.Shell.Place

namespace TagMenu.Shell

variable {m : Type → Type} [Monad m]

inductive Comparison where
  | same
  | different
  | before
  | after
  | equal
  | unequal
  | atLeast
  | greater
  | atMost
  | less
  | newer
  | older
  | sameFile
deriving DecidableEq, Repr

namespace Comparison

def text : Comparison → String
  | same => "="
  | different => "!="
  | before => "<"
  | after => ">"
  | equal => "-eq"
  | unequal => "-ne"
  | atLeast => "-ge"
  | greater => "-gt"
  | atMost => "-le"
  | less => "-lt"
  | newer => "-nt"
  | older => "-ot"
  | sameFile => "-ef"

def all : List Comparison :=
  [same, different, before, after, equal, unequal, atLeast, greater, atMost, less, newer, older,
    sameFile]

def ofText? (text : Octets) : Option Comparison :=
  all.find? fun comparison => comparison.text.toList = text

end Comparison

inductive Sense where
  | end_
  | operand
  | unary (letter : Char)
  | comparison (comparison : Comparison)
  | not
  | both
  | either
  | openBracket
  | closeBracket
deriving DecidableEq, Repr

def unaryLetters : List Char := "rwxefdcbpugkstznhOGLS".toList

def unary? : Octets → Option Char
  | ['-', c] => if unaryLetters.contains c then some c else none
  | _ => none

/-- The sense of the first of some arguments. A question is an operand if there is none after it, or
    if a comparison stands there. -/
def senseOf : List Octets → Sense
  | [] => .end_
  | text :: rest =>
    match Comparison.ofText? text, unary? text, text with
    | some comparison, _, _ => .comparison comparison
    | none, some letter, _ =>
      match rest with
      | [] => .operand
      | [_] => .unary letter
      | next :: _ => if (Comparison.ofText? next).isSome then .operand else .unary letter
    | none, none, ['!'] => .not
    | none, none, ['-', 'a'] => .both
    | none, none, ['-', 'o'] => .either
    | none, none, ['('] => if rest.isEmpty then .operand else .openBracket
    | none, none, [')'] => .closeBracket
    | none, none, _ => .operand

/-- A question about a file, by its letter. Nothing is known of who owns what, and all may be read
    and written. -/
def askFile (files : Files m) (letter : Char) (name : Octets) : Run m Bool := do
  if isNowhere name then return ['e', 'r', 'w', 'c', 'O', 'G'].contains letter
  let path ← pathOf name
  let isKnown := (programAt? (Octets.ofText path.text)).isSome
  let isThere := isKnown || (← outside (files.exists? path))
  let isFile := isKnown || (← outside (files.isFile path))
  match letter with
  | 'e' | 'r' | 'w' | 'O' | 'G' => return isThere
  | 'f' => return isFile
  | 'd' => return isThere && !isFile
  | 'x' => return isKnown || isThere && !isFile
  | 's' =>
    if isFile && !isKnown then
      return ((← outside (files.read path)).toOption.getD .empty).size != 0
    else return isThere
  | 'h' | 'L' => isLink files name
  | _ => return false

def isNewer (files : Files m) (first second : Octets) : Run m Bool := do
  match ← outside (files.modified (← pathOf first)), ← outside (files.modified (← pathOf second)) with
  | .ok a, .ok b =>
    return decide (a.seconds > b.seconds) || a.seconds == b.seconds && decide (a.nanoseconds > b.nanoseconds)
  | _, _ => return false

def isSameFile (files : Files m) (first second : Octets) : Run m Bool := do
  let path ← pathOf first
  let other ← pathOf second
  return path.same other && (← outside (files.exists? path))

def decimalOperand (files : Files m) (text : Octets) : Run m Int := do
  match wholeNumber? true text with
  | some number => return number
  | none => refuse files ("Illegal number: ".toList ++ text)

def wrongCondition {α : Type} (files : Files m) (place text : Octets) : Run m α :=
  refuse files (if place.isEmpty then text else place ++ ": ".toList ++ text)

def compareOperands (files : Files m) (comparison : Comparison) (left right : Octets) :
    Run m Bool := do
  let numbers (holds : Int → Int → Bool) : Run m Bool := do
    let a ← decimalOperand files left
    let b ← decimalOperand files right
    return holds a b
  match comparison with
  | .same => return left = right
  | .different => return left != right
  | .before => return Octets.before left right
  | .after => return Octets.before right left
  | .equal => numbers fun a b => a = b
  | .unequal => numbers fun a b => a != b
  | .atLeast => numbers fun a b => a ≥ b
  | .greater => numbers fun a b => a > b
  | .atMost => numbers fun a b => a ≤ b
  | .less => numbers fun a b => a < b
  | .newer => isNewer files left right
  | .older => isNewer files right left
  | .sameFile => isSameFile files left right

def askOperand (files : Files m) (letter : Char) (operand : Octets) : Run m Bool := do
  match letter with
  | 'z' => return operand.isEmpty
  | 'n' => return !operand.isEmpty
  | 't' =>
    let _ ← decimalOperand files operand
    return false
  | letter => askFile files letter operand

abbrev Judged := Bool × List Octets

mutual

def judgeEither (files : Files m) (bound : Nat) (sense : Sense) (arguments : List Octets) :
    Run m Judged :=
  match bound with
  | 0 => throw .endless
  | bound + 1 => do
    let (value, left) ← judgeBoth files bound sense arguments
    if senseOf (left.drop 1) = .either then
      let rest := left.drop 2
      let (other, left) ← judgeEither files bound (senseOf rest) rest
      return (value || other, left)
    else return (value, left)

def judgeBoth (files : Files m) (bound : Nat) (sense : Sense) (arguments : List Octets) :
    Run m Judged :=
  match bound with
  | 0 => throw .endless
  | bound + 1 => do
    let (value, left) ← judgeNot files bound sense arguments
    if senseOf (left.drop 1) = .both then
      let rest := left.drop 2
      let (other, left) ← judgeBoth files bound (senseOf rest) rest
      return (value && other, left)
    else return (value, left)

def judgeNot (files : Files m) (bound : Nat) (sense : Sense) (arguments : List Octets) :
    Run m Judged :=
  match bound with
  | 0 => throw .endless
  | bound + 1 => do
    if sense = .not then
      let rest := arguments.drop 1
      let (value, left) ← judgeNot files bound (senseOf rest) (if rest.isEmpty then arguments else rest)
      return (!value, left)
    else judgePrimary files bound sense arguments

def judgePrimary (files : Files m) (bound : Nat) (sense : Sense) (arguments : List Octets) :
    Run m Judged :=
  match bound with
  | 0 => throw .endless
  | bound + 1 => do
    match sense, arguments with
    | .end_, _ | _, [] => return (false, arguments)
    | .openBracket, _ :: rest =>
      if senseOf rest = .closeBracket then return (false, rest)
      let (value, left) ← judgeEither files bound (senseOf rest) rest
      if senseOf (left.drop 1) = .closeBracket then return (value, left.drop 1)
      else wrongCondition files [] "closing paren expected".toList
    | .unary letter, place :: rest =>
      match rest with
      | [] => wrongCondition files place "argument expected".toList
      | operand :: _ => return (← askOperand files letter operand, rest)
    | _, operand :: rest =>
      match senseOf rest, rest with
      | .comparison comparison, place :: after =>
        match after with
        | [] => wrongCondition files place "argument expected".toList
        | other :: _ => return (← compareOperands files comparison operand other, after)
      | _, _ => return (!operand.isEmpty, arguments)

end

def judge (files : Files m) (sense : Sense) (arguments : List Octets) : Run m Bool := do
  let (value, left) ← judgeEither files (8 * arguments.length + 8) sense arguments
  match left with
  | place :: _ :: _ => wrongCondition files place "unexpected operator".toList
  | _ => return value

def holdsFrom (files : Files m) (negated : Bool) : Nat → List Octets → Run m Bool
  | _, [] => return negated
  | bound + 1, [first, middle, last] => do
    if (Comparison.ofText? middle).isSome then
      return (← judge files .operand [first, middle, last]) != negated
    else if first = ['('] && last = [')'] then
      return (← judge files (senseOf [middle]) [middle]) != negated
    else if first = ['!'] then holdsFrom files true bound [middle, last]
    else
      let arguments := [first, middle, last]
      return (← judge files (senseOf arguments) arguments) != negated
  | bound + 1, [first, second, third, last] => do
    if first = ['('] && last = [')'] then
      return (← judge files (senseOf [second, third]) [second, third]) != negated
    else if first = ['!'] then holdsFrom files true bound [second, third, last]
    else
      let arguments := [first, second, third, last]
      return (← judge files (senseOf arguments) arguments) != negated
  | _, arguments => return (← judge files (senseOf arguments) arguments) != negated

def holds (files : Files m) (arguments : List Octets) : Run m Bool :=
  holdsFrom files false 3 arguments

end TagMenu.Shell
