import TagMenu.Host
import TagMenu.Settings.Basic
import TagMenu.Text.Split
import TagMenu.Text.Utf8

namespace TagMenu.Tagger

structure Answer where
  tagFiles : List Path
  diagnostics : List String
  success : Bool
deriving DecidableEq, Repr

/-- The answer in what a program has printed: its lines without the blanks around them, as far as
    anything is left of them. -/
def Answer.ofOutput (output : ProgramOutput) : Answer where
  tagFiles := (Text.nonBlankLines (Text.readLossy output.output)).map Path.mk
  diagnostics := Text.nonBlankLines (Text.readLossy output.diagnostics)
  success := output.success

def shown (tagger : Tagger) (name : String) : Text.Shown :=
  .record name [("program", .text tagger.program), ("args", .texts tagger.arguments)]

variable {m : Type → Type} [Monad m]

def ask (host : Host m) (tagger : Tagger) (file : Path) : m (Except Disk.Failure Answer) := do
  host.report .debug ("Running tagger " ++ tagger.program ++ " for " ++ file.text)
  match ← host.run tagger.program (tagger.arguments ++ [file.text]) with
  | .error failure => return .error failure
  | .ok output => return .ok (.ofOutput output)

/-- The tag files that the tagger names. A tagger that cannot be started names none; one that fails
    still names those that it has printed. -/
def tagFiles (host : Host m) (tagger : Tagger) (file : Path) : m (List Path) := do
  match ← tagger.ask host file with
  | .ok answer =>
    answer.diagnostics.forM fun line => host.note (.progress ("Tagger: " ++ line))
    if !answer.success then
      host.report .warning ("Tagger " ++ tagger.program ++ " exited unsuccessfully")
    return answer.tagFiles
  | .error failure =>
    host.report .warning
      ("Failed to run tagger " ++ tagger.program ++ ": " ++ failure.message)
    host.note (.progress
      ("Tagger: failed to run " ++ tagger.program ++ ": " ++ failure.message))
    return []

end TagMenu.Tagger
