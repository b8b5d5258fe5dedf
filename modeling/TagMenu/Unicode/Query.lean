import TagMenu.Unicode.Age
import TagMenu.Unicode.Break
import TagMenu.Unicode.Category
import TagMenu.Unicode.Property
import TagMenu.Unicode.Script

namespace TagMenu.Unicode.Query

/-- The loose form of a name. What is not ASCII is left out. A `c` after `is` stays as it is
    written, for it names another property than `c` does. -/
def looseName (name : List Char) : String :=
  let isBefore := match name with
    | i :: s :: _ => i.toLower = 'i' && s.toLower = 's'
    | _ => false
  let kept := (if isBefore then name.drop 2 else name).filter fun c =>
    c.toNat ≤ 0x7F && c != ' ' && c != '_' && c != '-'
  let loose := String.ofList (kept.map Char.toLower)
  if isBefore && loose = "c" then "isc" else loose

def isCategoryFirst (loose : String) : Bool := ["cf", "sc", "lc"].contains loose

def find? (name : List Char) : Option CodeSet :=
  let loose := looseName name
  let property := if isCategoryFirst loose then none else Property.codes? loose
  match property with
  | some codes => some codes
  | none =>
    match Category.codes? loose with
    | some codes => some codes
    | none => Script.codes? loose

def findValue? (property value : List Char) : Option CodeSet :=
  let value := looseName value
  match looseName property with
  | "generalcategory" | "gc" => Category.codes? value
  | "script" | "sc" => Script.codes? value
  | "scriptextensions" | "scx" => Script.extendedCodes? value
  | "age" => Age.codes? value
  | "graphemeclusterbreak" | "gcb" => Break.codes? Break.graphemeTables Break.graphemeNames value
  | "wordbreak" | "wb" => Break.codes? Break.wordTables Break.wordNames value
  | "sentencebreak" | "sb" => Break.codes? Break.sentenceTables Break.sentenceNames value
  | _ => none

end TagMenu.Unicode.Query
