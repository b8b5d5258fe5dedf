import TagMenu.Json.Value

namespace TagMenu.Settings

open Json (Value)

inductive Kind where
  | object
  | list
  | text
deriving DecidableEq, Repr

def Kind.name : Kind → String
  | object => "object"
  | list => "array"
  | text => "string"

inductive Problem where
  | wrongKind (value : Value) (expected : Kind)
  | emptyText
  | unknownMember (name : String)
  | missingMember (name : String)
  | noForm (value : Value)

structure Violation where
  problem : Problem
  place : List String := []

namespace Violation

def message (violation : Violation) : String :=
  let problem := match violation.problem with
    | .wrongKind value expected =>
      value.compact ++ " is not of type " ++ Value.quoteText expected.name
    | .emptyText => "\"\" is shorter than 1 character"
    | .unknownMember name =>
      "Additional properties are not allowed ('" ++ name ++ "' was unexpected)"
    | .missingMember name => Value.quoteText name ++ " is a required property"
    | .noForm value =>
      value.compact ++ " is not valid under any of the schemas listed in the 'oneOf' keyword"
  problem ++ " at " ++ "".intercalate (violation.place.map ("/" ++ ·))

def within (violation : Violation) (name : String) : Violation :=
  { violation with place := name :: violation.place }

end Violation

/-- A condition on values: the first violation of it. -/
abbrev Check := Value → Option Violation

namespace Check

def text : Check
  | .leaf (.text _) => none
  | value => some ⟨.wrongKind value .text, []⟩

def filledText : Check
  | .leaf (.text content) => if content.isEmpty then some ⟨.emptyText, []⟩ else none
  | value => some ⟨.wrongKind value .text, []⟩

def list (item : Check) : Check
  | .list items =>
    items.zipIdx.findSome? fun (value, i) => (item value).map (·.within (toString i))
  | value => some ⟨.wrongKind value .list, []⟩

def object (members : List (String × Check)) (required : List String) : Check
  | .object present =>
    let violation := present.findSome? fun (name, value) =>
      match members.lookup name with
      | none => some ⟨.unknownMember name, []⟩
      | some check => (check value).map (·.within name)
    match violation with
    | some violation => some violation
    | none =>
      (required.find? fun name => !present.any (·.1 == name)).map (⟨.missingMember ·, []⟩)
  | value => some ⟨.wrongKind value .object, []⟩

def exactly (content : String) : Check := fun value =>
  match value with
  | .leaf (.text other) => if other = content then none else some ⟨.noForm value, []⟩
  | value => some ⟨.noForm value, []⟩

def positive : Check := fun value =>
  match value with
  | .leaf (.number (.whole n)) => if 1 ≤ n then none else some ⟨.noForm value, []⟩
  | .leaf (.number (.double double)) =>
    if double.isPositiveWhole then none else some ⟨.noForm value, []⟩
  | value => some ⟨.noForm value, []⟩

def oneOf (forms : List Check) : Check := fun value =>
  if forms.any fun check => (check value).isNone then none else some ⟨.noForm value, []⟩

end Check

/-- The condition on settings. -/
def schema : Check :=
  .object [
    ("$schema", .text),
    ("name", .filledText),
    ("mark", .text),
    ("filetypes", .list .text),
    ("tagFiles", .list .text),
    ("tagger", .object [("program", .filledText), ("args", .list .text)] ["program"]),
    ("conflictingSources", .list .text),
    ("eviction", .oneOf [
      .object [("policy", .exactly "retain")] ["policy"],
      .object [("policy", .exactly "idle"), ("refreshes", .positive)] ["policy", "refreshes"]])] []

end TagMenu.Settings
