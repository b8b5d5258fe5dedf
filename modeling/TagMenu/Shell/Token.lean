import TagMenu.Shell.Script

namespace TagMenu.Shell

inductive Mark where
  | semicolon
  | ampersand
  | both
  | either
  | pipe
  | openBracket
  | closeBracket
  | endOfCase
deriving DecidableEq, Repr

def Mark.text : Mark → String
  | semicolon => ";"
  | ampersand => "&"
  | both => "&&"
  | either => "||"
  | pipe => "|"
  | openBracket => "("
  | closeBracket => ")"
  | endOfCase => ";;"

inductive Keyword where
  | negate
  | case_
  | do_
  | done_
  | elif_
  | else_
  | esac_
  | fi_
  | for_
  | if_
  | in_
  | then_
  | until_
  | while_
  | openBrace
  | closeBrace
deriving DecidableEq, Repr

namespace Keyword

def text : Keyword → String
  | negate => "!"
  | case_ => "case"
  | do_ => "do"
  | done_ => "done"
  | elif_ => "elif"
  | else_ => "else"
  | esac_ => "esac"
  | fi_ => "fi"
  | for_ => "for"
  | if_ => "if"
  | in_ => "in"
  | then_ => "then"
  | until_ => "until"
  | while_ => "while"
  | openBrace => "\x7b"
  | closeBrace => "\x7d"

def all : List Keyword :=
  [negate, case_, do_, done_, elif_, else_, esac_, fi_, for_, if_, in_, then_, until_, while_,
    openBrace, closeBrace]

def ofText? (text : Octets) : Option Keyword := all.find? fun keyword => keyword.text.toList = text

def endsCommands (keyword : Keyword) : Bool :=
  [do_, done_, elif_, else_, esac_, fi_, then_, closeBrace].contains keyword

end Keyword

inductive Direction where
  | file (opening : Opening)
  | copy
  | document (dropTabs : Bool)
deriving DecidableEq, Repr

inductive Token where
  | endOfText
  | newline
  | mark (mark : Mark)
  | keyword (keyword : Keyword)
  | redirect (descriptor : Nat) (direction : Direction)
  | word (word : Word) (quoted : Bool)

namespace Token

def name : Token → String
  | endOfText => "end of file"
  | newline => "newline"
  | mark sign => "\"" ++ sign.text ++ "\""
  | keyword known => "\"" ++ known.text ++ "\""
  | redirect _ _ => "redirection"
  | word _ _ => "word"

def endsCommands : Token → Bool
  | endOfText | mark .closeBracket | mark .endOfCase => true
  | keyword known => known.endsCommands
  | _ => false

def asWord : Token → Word
  | word pieces _ => pieces
  | keyword known => known.text.toList.map (.letter false)
  | _ => []

end Token

/-- The commands that no function may be named after. They belong to the shell itself. -/
def specialCommands : List String :=
  [".", ":", "break", "continue", "eval", "exec", "exit", "export", "local", "readonly", "return",
    "set", "shift", "times", "trap", "unset"]

inductive Fault where
  | unexpected (found : String)
  | notExpected (found expected : String)
  | openQuote
  | openBrace
  | openFormula
  | openBackquote
  | loopVariable
  | functionName
  | endless
deriving DecidableEq, Repr

def Fault.message : Fault → String
  | unexpected found => found ++ " unexpected"
  | notExpected found expected => found ++ " unexpected (expecting " ++ expected ++ ")"
  | openQuote => "Unterminated quoted string"
  | openBrace => "Missing '\x7d'"
  | openFormula => "Missing '))'"
  | openBackquote => "EOF in backquote substitution"
  | loopVariable => "Bad for loop variable"
  | functionName => "Bad function name"
  | endless => "Input too long"

end TagMenu.Shell
