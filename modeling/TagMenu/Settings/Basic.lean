import TagMenu.Cache.Policy
import TagMenu.Json.Value
import TagMenu.Path

namespace TagMenu

structure Tagger where
  program : String
  arguments : List String
deriving DecidableEq, Repr

structure Settings where
  name : String := "julia"
  mark : String := "[J]"
  filetypes : List String := ["julia"]
  tagFiles : List Path := []
  tagger : Option Tagger := none
  conflicting : List String := ["tag"]
  eviction : Eviction := .retain
  base : Option Path := none
deriving DecidableEq, Repr, Inhabited

namespace Settings

def resolved (settings : Settings) : List Path :=
  settings.tagFiles.map fun path =>
    match settings.base with
    | some base => base.join path
    | none => path

open Json (Value)

def taggerJson (tagger : Tagger) : Value :=
  .object [("program", Value.text tagger.program), ("args", Value.texts tagger.arguments)]

def evictionJson : Eviction → Value
  | .retain => .object [("policy", Value.text "retain")]
  | .idle refreshes =>
    .object [("policy", Value.text "idle"), ("refreshes", Value.natural refreshes.toNat)]

/-- The settings as JSON. The base is not written; it is where the settings are kept. -/
def toJson (settings : Settings) : Value :=
  .object <|
    [("name", Value.text settings.name),
      ("mark", Value.text settings.mark),
      ("filetypes", Value.texts settings.filetypes),
      ("tagFiles", Value.texts (settings.tagFiles.map (·.text)))] ++
    settings.tagger.toList.map (fun tagger => ("tagger", taggerJson tagger)) ++
    [("conflictingSources", Value.texts settings.conflicting),
      ("eviction", evictionJson settings.eviction)]

end Settings

end TagMenu
