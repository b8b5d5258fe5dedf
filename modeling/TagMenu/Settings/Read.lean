import TagMenu.Settings.Basic
import TagMenu.Settings.Schema
import TagMenu.Json.Loose
import TagMenu.Disk.Failure
import TagMenu.Text.Quoted

namespace TagMenu.Settings

open Json (Value)

inductive Refusal where
  | wrongType (value : Value) (expected : String)
  | wrongNumber (number : Int) (expected : String)
  | missingMember (name : String)
  | unknownPolicy (name : String)

namespace Refusal

def described : Value → String
  | .leaf .null => "null"
  | .leaf (.bool value) => "boolean \x60" ++ toString value ++ "\x60"
  | .leaf (.number (.whole value)) => "integer \x60" ++ toString value ++ "\x60"
  | .leaf (.number (.double value)) => "floating point \x60" ++ value.text ++ "\x60"
  | .leaf (.text content) => "string " ++ Text.quoted content
  | .list _ => "sequence"
  | .object _ => "map"

def message : Refusal → String
  | wrongType value expected => "invalid type: " ++ described value ++ ", expected " ++ expected
  | wrongNumber number expected =>
    "invalid value: integer \x60" ++ toString number ++ "\x60, expected " ++ expected
  | missingMember name => "missing field \x60" ++ name ++ "\x60"
  | unknownPolicy name =>
    "unknown variant \x60" ++ name ++ "\x60, expected \x60retain\x60 or \x60idle\x60"

end Refusal

inductive Error where
  | notJson
  | unreadable (failure : Disk.Failure)
  | violation (found : Violation)
  | refused (why : Refusal)

def Error.message : Error → String
  | notJson => "Invalid JSON"
  | unreadable failure => "Failed to read config: " ++ failure.message
  | violation found => "Config validation failed: " ++ found.message
  | refused why => "Invalid config: " ++ why.message

def readText (expected : String) : Value → Except Refusal String
  | .leaf (.text content) => .ok content
  | value => .error (.wrongType value expected)

def readTexts (expected : String) : Value → Except Refusal (List String)
  | .list items => items.mapM (readText expected)
  | value => .error (.wrongType value "a sequence")

def readCount : Value → Except Refusal UInt32
  | .leaf (.number (.whole value)) =>
    if 0 ≤ value ∧ value < 0x100000000 then .ok value.toNat.toUInt32 else .error (.wrongNumber value "u32")
  | value => .error (.wrongType value "u32")

def readRequired {α : Type} (members : List (String × Value)) (name : String) (read : Value → Except Refusal α) :
    Except Refusal α :=
  match Json.member? name members with
  | some value => read value
  | none => .error (.missingMember name)

def readOr {α : Type} (default : α) (members : List (String × Value)) (name : String)
    (read : Value → Except Refusal α) : Except Refusal α :=
  match Json.member? name members with
  | some value => read value
  | none => .ok default

def readTagger : Value → Except Refusal (Option Tagger)
  | .leaf .null => .ok none
  | .object members => do
    let arguments ← readOr [] members "args" (readTexts "a string")
    let program ← readRequired members "program" (readText "a string")
    return some ⟨program, arguments⟩
  | value => .error (.wrongType value "struct TaggerConfig")

def readEviction : Value → Except Refusal Eviction
  | .object members => do
    match ← readRequired members "policy" (readText "variant identifier") with
    | "retain" => return .retain
    | "idle" => return .idle (← readRequired members "refreshes" readCount)
    | other => throw (.unknownPolicy other)
  | value => .error (.wrongType value "internally tagged enum EvictionConfig")

def ofMembers (members : List (String × Value)) : Except Refusal Settings := do
  let defaults : Settings := {}
  let conflicting ← readOr defaults.conflicting members "conflictingSources" (readTexts "a string")
  let eviction ← readOr defaults.eviction members "eviction" readEviction
  let filetypes ← readOr defaults.filetypes members "filetypes" (readTexts "a string")
  let mark ← readOr defaults.mark members "mark" (readText "a string")
  let name ← readOr defaults.name members "name" (readText "a string")
  let tagFiles ← readOr defaults.tagFiles members "tagFiles" fun value =>
    (readTexts "path string" value).map (·.map Path.mk)
  let tagger ← readOr defaults.tagger members "tagger" readTagger
  return { name, mark, filetypes, tagFiles, tagger, conflicting, eviction }

def ofValue (value : Value) : Except Error Settings :=
  match schema value with
  | some found => .error (.violation found)
  | none =>
    match value with
    -- A list of all fields in order would be settings here as well, but it has not met the condition.
    | .object members => (ofMembers members).mapError .refused
    | value => .error (.refused (.wrongType value "struct CompletionConfig"))

def ofText (text : String) : Except Error Settings :=
  match Json.Loose.read text with
  | none => .error .notJson
  | some value => ofValue value.sorted

end TagMenu.Settings
