import TagMenu.Shell.Octets

namespace TagMenu.Shell

inductive Opening where
  | read
  | write (force : Bool)
  | append
  | readWrite
deriving DecidableEq, Repr

inductive Side where
  | start
  | finish
deriving DecidableEq, Repr

mutual

/-- A piece of a word. What is quoted stands for itself, and is not cut into several words. -/
inductive Piece where
  | letter (quoted : Bool) (c : Char)
  | quote
  | parameter (quoted : Bool) (name : Octets) (edit : Edit)
  | output (quoted : Bool) (body : Option Command)
  | formula (quoted : Bool) (text : List Piece)

/-- What is made of the value of a parameter. With `orEmpty` an empty value counts as none. -/
inductive Edit where
  | keep
  | unknown
  | length
  | otherwise (orEmpty : Bool) (word : List Piece)
  | instead (orEmpty : Bool) (word : List Piece)
  | assign (orEmpty : Bool) (word : List Piece)
  | demand (orEmpty : Bool) (word : List Piece)
  | trim (side : Side) (longest : Bool) (form : List Piece)

inductive Redirect where
  | file (descriptor : Nat) (opening : Opening) (path : List Piece)
  | copy (descriptor : Nat) (source : List Piece)
  | document (descriptor : Nat) (number : Nat)

inductive Command where
  | simple (line : Nat) (assignments words : List (List Piece)) (redirects : List Redirect)
  | pipeline (commands : List Command)
  | background (body : Command)
  | sequence (first second : Command)
  | both (first second : Command)
  | either (first second : Command)
  | negate (body : Command)
  | branch (test body otherwise : Option Command)
  | loop (until_ : Bool) (test body : Option Command)
  | each (line : Nat) (name : Octets) (words : List (List Piece)) (body : Option Command)
  | choose (line : Nat) (word : List Piece) (cases : List (List (List Piece) × Option Command))
  | define (line : Nat) (name : Octets) (body : Command)
  | subshell (line : Nat) (body : Option Command) (redirects : List Redirect)
  | redirected (line : Nat) (body : Option Command) (redirects : List Redirect)

end

abbrev Word := List Piece

abbrev Body := Option Command

instance : Inhabited Piece := ⟨.quote⟩

instance : Inhabited Command := ⟨.pipeline []⟩

def plainText? : Word → Option Octets
  | [] => some []
  | .letter false c :: rest => (plainText? rest).map (c :: ·)
  | _ :: _ => none

def isAssignment (word : Word) : Bool :=
  let text := word.map fun
    | .letter false c => c
    | _ => ' '
  (assignment? text).isSome

end TagMenu.Shell
