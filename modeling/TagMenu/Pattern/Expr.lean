import TagMenu.Pattern.Charset

/-!
Regular expressions: what a pattern means once it is read. Only the question whether there is a
match is ever asked, so nothing is kept of captured text and of preferences among matches.
-/

namespace TagMenu.Pattern

inductive WordEdge where
  | boundary
  | notBoundary
  | start
  | finish
  | startHalf
  | finishHalf
deriving DecidableEq, Repr

def WordEdge.holds (edge : WordEdge) (before after : Bool) : Bool :=
  match edge with
  | boundary => before != after
  | notBoundary => before == after
  | start => !before && after
  | finish => before && !after
  | startHalf => !before
  | finishHalf => !after

/-- A condition on a place between two characters. -/
inductive Look where
  | textStart
  | textEnd
  | lineStart (crlf : Bool)
  | lineEnd (crlf : Bool)
  | word (edge : WordEdge) (ascii : Bool)
deriving DecidableEq, Repr

namespace Look

def isWordCharacter (ascii : Bool) : Option Char → Bool
  | none => false
  | some c => (if ascii then Charset.asciiWordCharacters else Charset.wordCharacters).contains c

/-- Is the condition met between two characters, either of which may be missing at an end of the
    text? A carriage return and a line feed after it end one line. -/
def holds (look : Look) (before after : Option Char) : Bool :=
  match look with
  | textStart => before.isNone
  | textEnd => after.isNone
  | lineStart false => before.isNone || before == some '\n'
  | lineStart true =>
    before.isNone || before == some '\n' || (before == some '\r' && after != some '\n')
  | lineEnd false => after.isNone || after == some '\n'
  | lineEnd true =>
    after.isNone || after == some '\r' || (after == some '\n' && before != some '\r')
  | word edge ascii => edge.holds (isWordCharacter ascii before) (isWordCharacter ascii after)

end Look

inductive Expr where
  | empty
  | char (c : Char)
  | set (set : Charset)
  | look (condition : Look)
  | seq (first second : Expr)
  | alt (left right : Expr)
  | iterate (body : Expr) (min : Nat) (max : Option Nat)
  | group (body : Expr)

namespace Expr

def seqAll : List Expr → Expr
  | [] => empty
  | [expr] => expr
  | expr :: next :: more => seq expr (seqAll (next :: more))

def altAll : List Expr → Expr
  | [] => empty
  | [expr] => expr
  | expr :: next :: more => alt expr (altAll (next :: more))

end Expr

end TagMenu.Pattern
