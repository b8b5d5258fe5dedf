import TagMenu.Tag.Candidate
import TagMenu.Tag.Escape
import TagMenu.Text.Split

namespace TagMenu.Line

inductive Fault where
  | tooFewFields (found : Nat)
  | emptyWord
  | malformedField (field : String)
  | invalidEscape (error : Escape.Error)
deriving DecidableEq, Repr

structure Error where
  fault : Fault
  line : String
deriving DecidableEq, Repr

def Error.message (error : Error) : String :=
  let line := Text.quoted error.line
  match error.fault with
  | .tooFewFields found =>
    "expected at least 3 tab-separated fields, found " ++ toString found ++ ": " ++ line
  | .emptyWord => "empty symbol name: " ++ line
  | .malformedField field =>
    "malformed extension field " ++ Text.quoted field ++ " (expected key:value): " ++ line
  | .invalidEscape escape => "invalid escape in doc field: " ++ escape.message ++ ": " ++ line

/-- Lines that carry no tag are blank or begin with an exclamation mark. -/
def isSkipped (line : List Char) : Bool := line.all Text.isBlank || line.head? == some '!'

def extension? (field : List Char) : Option (List Char × List Char) :=
  (Text.cutFirst? ':' field).map fun (key, value) => (Text.trimChars key, Text.trimChars value)

abbrev Values := List (List Char × List Char)

def Values.put (key value : List Char) : Values → Values
  | [] => [(key, value)]
  | (other, kept) :: rest =>
    if other = key then (key, value) :: rest else (other, kept) :: Values.put key value rest

def addExtensions (values : Values) : List (List Char) → Except Fault Values
  | [] => .ok values
  | field :: rest =>
    match extension? field with
    | none => .error (.malformedField (String.ofList field))
    | some (key, value) => addExtensions (values.put key value) rest

def valueOf (key : String) (values : Values) : String :=
  String.ofList ((values.lookup key.toList).getD [])

def candidate (names : Unicode.NameTable) (fields : List (List Char)) : Except Fault Candidate :=
  match fields with
  | word :: _ :: _ :: rest =>
    if word.isEmpty then .error .emptyWord
    else do
      let values ← addExtensions [] rest.dropLast
      let doc ← (Escape.decode names (valueOf "doc" values)).mapError .invalidEscape
      return .ofParts (String.ofList word) (valueOf "kind" values) (valueOf "module" values)
        (valueOf "string" values) doc
  | _ => .error (.tooFewFields fields.length)

/-- Reads one line, whose end may still be on it. There is no candidate if the line is skipped. -/
def read (names : Unicode.NameTable) (line : String) : Except Error (Option Candidate) :=
  let chars := Text.dropTerminator line.toList
  if isSkipped chars then .ok none
  else
    match candidate names (Text.pieces '\t' chars) with
    | .ok candidate => .ok (some candidate)
    | .error fault => .error ⟨fault, String.ofList chars⟩

end TagMenu.Line
