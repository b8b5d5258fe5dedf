import Mathlib
import TagMenu.Source.Discovery
import TagMenu.Proofs.Cache.Look
import TagMenu.Proofs.Path.Parts
import TagMenu.Proofs.Source.Entries

namespace TagMenu

variable {σ : Type} {host : Host (StateM σ)} {directory : Path} {world : σ}

namespace Tagger

/-- The lines of what a program has printed, without the blanks around them, but for those that are blank. -/
def linesOf (output : ByteArray) : List Path :=
  let lines := (Text.lines (Text.readLossy output).toList).map Text.trimChars
  (lines.filter (· ≠ [])).map fun line => ⟨String.ofList line⟩

def named (host : Host (StateM σ)) (tagger : Tagger) (file : Path) (world : σ) : List Path :=
  let asked := ((host.report .debug ("Running tagger " ++ tagger.program ++ " for " ++ file.text)).run world).2
  match ((host.run tagger.program (tagger.arguments ++ [file.text])).run asked).1 with
  | .ok output => linesOf output.output
  | .error _ => []

theorem tagFiles_ofOutput (output : ProgramOutput) : (Answer.ofOutput output).tagFiles = linesOf output.output := by
  rw [Answer.ofOutput, linesOf, Text.nonBlankLines]
  induction Text.lines (Text.readLossy output.output).toList with
  | nil => rfl
  | cons line rest ih =>
    by_cases blank : Text.trimChars line = []
    · simpa [blank] using ih
    · simpa [blank] using ih

theorem run_ask (host : Host (StateM σ)) (tagger : Tagger) (file : Path) (world : σ) :
    (tagger.ask host file).run world =
      let ran := (host.run tagger.program (tagger.arguments ++ [file.text])).run
        ((host.report .debug ("Running tagger " ++ tagger.program ++ " for " ++ file.text)).run world).2
      (ran.1.map Answer.ofOutput, ran.2) := by
  rw [ask, Cache.run_bind, Cache.run_bind]
  rcases (host.run tagger.program (tagger.arguments ++ [file.text])).run _ with ⟨failure | output, after⟩ <;> rfl

theorem run_tagFiles (host : Host (StateM σ)) (tagger : Tagger) (file : Path) (world : σ) :
    ((tagger.tagFiles host file).run world).1 = tagger.named host file world := by
  rw [tagFiles, Cache.run_bind, run_ask, named]
  rcases (host.run tagger.program (tagger.arguments ++ [file.text])).run _ with ⟨failure | output, after⟩
  · rfl
  · have paths := tagFiles_ofOutput output
    dsimp only [Except.map]
    rw [Cache.run_bind]
    cases (Answer.ofOutput output).success with
    | true => exact paths
    | false => exact paths

end Tagger

namespace Lookup

def named (host : Host (StateM σ)) (lookup : Lookup) (file : Option Path) (world : σ) : List Path :=
  match lookup.tagger, file with
  | some tagger, some file => tagger.named host file world
  | _, _ => []

theorem run_taggerFiles (host : Host (StateM σ)) (lookup : Lookup) (file : Option Path) (world : σ) :
    ((lookup.taggerFiles host file).run world).1 = lookup.named host file world := by
  unfold taggerFiles named
  cases lookup.tagger with
  | none => rfl
  | some tagger =>
    cases file with
    | none => rfl
    | some file => exact Tagger.run_tagFiles host tagger file world

theorem run_find (here : ∀ world, (host.workingDirectory.run world).1 = directory) (lookup : Lookup)
    (file : Option Path) (world : σ) : ((lookup.find host file).run world).1 =
      (lookup.tagFiles ++ lookup.included.getD [] ++ lookup.named host file world).map (·.absolute directory) := by
  rw [find, Cache.run_bind, Cache.run_bind, run_taggerFiles, here]
  rfl

/-- A lookup finds what is configured, then what is included, then what the tagger has printed, in this order and with
    nothing left out or put together, each as an absolute path. Only the empty path has no absolute form and stays as it
    is. An absolute form stays as it is too. For a cache two paths are one file if the same is written in both, once
    they are put behind the working directory, but for full stops and for slashes that are repeated or at the end. -/
theorem find_keeps_order (here : ∀ world, (host.workingDirectory.run world).1 = directory)
    (rooted : directory.isAbsolute = true) (lookup : Lookup) (file : Option Path) (world : σ) :
    ((lookup.find host file).run world).1 =
        (lookup.tagFiles ++ lookup.included.getD [] ++ lookup.named host file world).map (·.absolute directory) ∧
      (∀ path : Path,
        if path.text = "" then path.absolute? directory = none ∧ path.absolute directory = path
        else path.absolute? directory = some (path.absolute directory) ∧
          (path.absolute directory).isAbsolute = true) ∧
      (directory.Usual → ∀ path other : Path, (path.absolute directory).absolute other = path.absolute directory) ∧
      ∀ left right : Path, left.text ≠ "" → right.text ≠ "" →
        ((left.absolute directory).key = (right.absolute directory).key ↔
          (directory.join left).steps = (directory.join right).steps) := by
  refine ⟨run_find here lookup file world, fun path => ?_, fun usual path other => ?_,
    fun left right filledLeft filledRight => ?_⟩
  · split
    case isTrue none =>
      have empty : path.isEmpty = true := by simpa [Path.isEmpty] using none
      exact ⟨if_pos empty, Path.absolute_of_isEmpty empty directory⟩
    case isFalse filled =>
      have some : path.isEmpty = false := String.isEmpty_eq_false_iff.mpr filled
      exact ⟨Path.absolute?_eq some directory, Path.isAbsolute_absolute rooted some⟩
  · by_cases empty : path.isEmpty = true
    · rw [Path.absolute_of_isEmpty empty, Path.absolute_of_isEmpty empty]
    · exact (usual.of_absolute (Bool.eq_false_iff.mpr empty)).absolute other
  · exact Path.key_absolute_eq_iff rooted (String.isEmpty_eq_false_iff.mpr filledLeft)
      (String.isEmpty_eq_false_iff.mpr filledRight)

def printing (output : String) : Host (StateM Unit) :=
  { Host.holding ⟨"t"⟩ .empty with
    workingDirectory := return ⟨"/w"⟩
    run := fun _ _ => return .ok { output := output.toUTF8, diagnostics := .empty, success := false } }

def threefold : Lookup := { tagFiles := [⟨"t"⟩, ⟨""⟩], included := some [⟨"//i"⟩], tagger := some ⟨"x", []⟩ }

theorem find_keeps_order_of_spellings :
    ((threefold.find (printing "./t/\n \r\n  d/../t") (some ⟨"f"⟩)).run ()).1 =
        [⟨"/w/t"⟩, ⟨""⟩, ⟨"//i"⟩, ⟨"/w/t/"⟩, ⟨"/w/d/../t"⟩] ∧
      ((⟨"d/../t"⟩ : Path).absolute ⟨"/w"⟩).absolute ⟨"/"⟩ = (⟨"d/../t"⟩ : Path).absolute ⟨"/w"⟩ ∧
      ((⟨"t"⟩ : Path).absolute ⟨"/w"⟩).key = ((⟨"./t/"⟩ : Path).absolute ⟨"/w"⟩).key := by
  have here : ∀ world, ((printing "./t/\n \r\n  d/../t").workingDirectory.run world).1 = ⟨"/w"⟩ := fun _ => rfl
  have rooted : (⟨"/w"⟩ : Path).isAbsolute = true := Path.isAbsolute_iff.mpr rfl
  obtain ⟨found, -, again, keys⟩ := find_keeps_order here rooted threefold (some ⟨"f"⟩) ()
  have name : Path.IsStep ['w'] := ⟨by decide, by decide, by decide⟩
  refine ⟨found.trans ?_, ?_, (keys _ _ (by decide) (by decide)).mpr ?_⟩
  · decide +kernel
  · exact again ⟨false, [['w']], false, by simpa using name, nofun, rfl⟩ ⟨"d/../t"⟩ ⟨"/"⟩
  · decide +kernel

end Lookup

end TagMenu
