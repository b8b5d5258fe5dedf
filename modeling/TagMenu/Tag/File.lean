import TagMenu.Tag.Line
import TagMenu.Disk.Failure
import TagMenu.Path

namespace TagMenu.TagFile

inductive Error where
  | unreadable (path : Path) (failure : Disk.Failure)
  | malformed (path : Path) (number : Nat) (error : Line.Error)
deriving DecidableEq, Repr

namespace Error

def path : Error → Path
  | unreadable path _ | malformed path _ _ => path

def line? : Error → Option String
  | unreadable _ _ => none
  | malformed _ _ error => some error.line

def message : Error → String
  | unreadable path failure => "failed to read " ++ path.text ++ ": " ++ failure.message
  | malformed path number error => path.text ++ ":" ++ toString number ++ ": " ++ error.message

end Error

def readLines (names : Unicode.NameTable) (path : Path) (number : Nat) :
    List (List Char) → Except Error (List Candidate)
  | [] => .ok []
  | line :: rest =>
    match Line.read names (String.ofList line) with
    | .error error => .error (.malformed path number error)
    | .ok none => readLines names path (number + 1) rest
    | .ok (some candidate) => (readLines names path (number + 1) rest).map (candidate :: ·)

def readText (names : Unicode.NameTable) (path : Path) (text : String) :
    Except Error (List Candidate) :=
  readLines names path 1 (Text.lines text.toList)

/-- The candidates of a file's content. What is not UTF-8 in it is replaced. -/
def readOctets (names : Unicode.NameTable) (path : Path) (content : ByteArray) :
    Except Error (List Candidate) :=
  readText names path (Text.readLossy content)

end TagMenu.TagFile
