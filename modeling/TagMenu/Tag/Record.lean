import TagMenu.Tag.Candidate
import TagMenu.Json.Value
import TagMenu.Json.Strict

namespace TagMenu.Candidate

open Json (Value)
open Json.Strict (Document)

def toJson (candidate : Candidate) : Value :=
  .object [
    ("word", Value.text candidate.word),
    ("dup", Value.natural candidate.dup.toNat),
    ("kind", Value.text candidate.kind),
    ("menu", Value.text candidate.menu),
    ("info", Value.text candidate.info)]

def listToJson (candidates : List Candidate) : String :=
  Value.pretty (.list (candidates.map toJson))

def text? : Document → Option String
  | .leaf (.text content) => content
  | _ => none

def octet? : Document → Option UInt8
  | .leaf (.numeral source) => do
    let digits ← source.toList.mapM Text.decimalValue?
    let value := Text.numeral 10 digits
    if value < 256 then some value.toUInt8 else none
  | _ => none

/-- The value of the member with a name, of which there is exactly one. -/
def only? (name : String) (members : List (Option String × Document)) : Option Document :=
  match members.filter (·.1 == some name) with
  | [(_, value)] => some value
  | _ => none

/-- A candidate as an object, the members in any order and others between them, or as a list of the
    fields in order. The names of all members have to be whole. -/
def ofTree? : Document → Option Candidate
  | .object members => do
    guard (members.all (·.1.isSome))
    let field (name : String) : Option String := (only? name members).bind text?
    return { word := ← field "word", dup := ← (only? "dup" members).bind octet?,
             kind := ← field "kind", menu := ← field "menu", info := ← field "info" }
  | .list [word, dup, kind, menu, info] => do
    return { word := ← text? word, dup := ← octet? dup, kind := ← text? kind,
             menu := ← text? menu, info := ← text? info }
  | _ => none

def ofJson? (text : String) : Option Candidate := (Json.Strict.read text).bind ofTree?

end TagMenu.Candidate
