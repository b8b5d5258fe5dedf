import TagMenu.Json.Tree
import TagMenu.Json.Number

namespace TagMenu.Json

inductive Scalar where
  | null
  | bool (value : Bool)
  | number (value : Number)
  | text (content : String)
deriving DecidableEq, Repr, Inhabited

abbrev Value := Tree Scalar String

namespace Value

def text (content : String) : Value := .leaf (.text content)

def natural (n : Nat) : Value := .leaf (.number (.whole n))

def texts (items : List String) : Value := .list (items.map text)

def insert (name : String) (value : Value) : List (String × Value) → List (String × Value)
  | [] => [(name, value)]
  | (other, kept) :: rest =>
    if name < other then (name, value) :: (other, kept) :: rest
    else if name = other then (name, value) :: rest
    else (other, kept) :: insert name value rest

mutual

/-- The value with the members of all objects sorted by name. Of members with one name the last
    one is kept. -/
def sorted : Value → Value
  | .leaf scalar => .leaf scalar
  | .list items => .list (sortedItems items)
  | .object members =>
    .object ((sortedMembers members).foldl (fun kept (name, value) => insert name value kept) [])

def sortedItems : List Value → List Value
  | [] => []
  | item :: rest => sorted item :: sortedItems rest

def sortedMembers : List (String × Value) → List (String × Value)
  | [] => []
  | (name, value) :: rest => (name, sorted value) :: sortedMembers rest

end

def quoteChar (c : Char) : List Char :=
  match c with
  | '"' => ['\\', '"']
  | '\\' => ['\\', '\\']
  | '\x08' => ['\\', 'b']
  | '\t' => ['\\', 't']
  | '\n' => ['\\', 'n']
  | '\x0c' => ['\\', 'f']
  | '\r' => ['\\', 'r']
  | c =>
    if c.toNat < 0x20 then
      ['\\', 'u', '0', '0', Nat.digitChar (c.toNat / 16), Nat.digitChar (c.toNat % 16)]
    else [c]

def quoteText (content : String) : String :=
  String.ofList ('"' :: content.toList.flatMap quoteChar ++ ['"'])

def scalarText : Scalar → String
  | .null => "null"
  | .bool true => "true"
  | .bool false => "false"
  | .number number => number.text
  | .text content => quoteText content

mutual

def compact : Value → String
  | .leaf scalar => scalarText scalar
  | .list items => "[" ++ ",".intercalate (compactItems items) ++ "]"
  | .object members => "\x7b" ++ ",".intercalate (compactMembers members) ++ "\x7d"

def compactItems : List Value → List String
  | [] => []
  | item :: rest => compact item :: compactItems rest

def compactMembers : List (String × Value) → List String
  | [] => []
  | (name, value) :: rest => (quoteText name ++ ":" ++ compact value) :: compactMembers rest

end

def lineStart (depth : Nat) : String := "\n" ++ String.ofList (List.replicate (2 * depth) ' ')

def block (start finish : String) (depth : Nat) (items : List String) : String :=
  if items.isEmpty then start ++ finish
  else
    let lines := items.map (lineStart (depth + 1) ++ ·)
    start ++ ",".intercalate lines ++ lineStart depth ++ finish

mutual

def indented (depth : Nat) : Value → String
  | .leaf scalar => scalarText scalar
  | .list items => block "[" "]" depth (indentedItems (depth + 1) items)
  | .object members => block "\x7b" "\x7d" depth (indentedMembers (depth + 1) members)

def indentedItems (depth : Nat) : List Value → List String
  | [] => []
  | item :: rest => indented depth item :: indentedItems depth rest

def indentedMembers (depth : Nat) : List (String × Value) → List String
  | [] => []
  | (name, value) :: rest =>
    (quoteText name ++ ": " ++ indented depth value) :: indentedMembers depth rest

end

def pretty (value : Value) : String := indented 0 value

end Value

end TagMenu.Json
