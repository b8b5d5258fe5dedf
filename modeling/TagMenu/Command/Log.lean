import TagMenu.Host

namespace TagMenu

def Severity.name : Severity → String
  | error => "ERROR"
  | warning => "WARN"
  | information => "INFO"
  | debug => "DEBUG"

namespace Note

def severity : Note → Severity
  | progress _ => .information
  | report severity _ => severity

def text : Note → String
  | progress text => text
  | report _ text => text

def logChar (c : Char) : List Char :=
  match c with
  | '\x07' => ['\\', 'x', '0', '7']
  | '\x08' => ['\\', 'x', '0', '8']
  | '\x0c' => ['\\', 'x', '0', 'c']
  | '\x1b' => ['\\', 'x', '1', 'b']
  | '\x7f' => ['\\', 'x', '7', 'f']
  | c =>
    if 0x80 ≤ c.toNat ∧ c.toNat ≤ 0x9F then
      ['\\', 'u', '\x7b'] ++ Nat.toDigits 16 c.toNat ++ ['\x7d']
    else [c]

def logText (note : Note) : String := String.ofList (note.text.toList.flatMap logChar)

def isLogged (verbose : Bool) (note : Note) : Bool := verbose || note.severity != .debug

end Note

def Host.logging {m : Type → Type} [Monad m] (host : Host m) (verbose : Bool) : Host m :=
  { host with note := fun note => if note.isLogged verbose then host.note note else return () }

end TagMenu
