import Mathlib
import TagMenu.Proofs.Command.Direct
import TagMenu.Proofs.Disk.Joined
import TagMenu.Proofs.Path.Parts

namespace TagMenu

open Disk (Node Place Timestamp Volume pathLimit)
open Machine (Act Quiet settingsIn settingsFile?)

variable {host : Host Act} {machine : Machine} {volume : Volume} {directory path left right base : Path}
  {entries : List (FileName × Node)} {modified : Timestamp} {settings : Settings}

namespace Path

theorem isAbsolute_join_of_relative (relative : ¬ path.isAbsolute = true) (base : Path) :
    (base.join path).isAbsolute = base.isAbsolute := by
  rw [Bool.eq_iff_iff, isAbsolute_iff, isAbsolute_iff]
  have start : path.text.toList.head? ≠ some '/' := mt isAbsolute_iff.mpr relative
  rw [join, if_neg relative]
  by_cases none : base.text = ""
  · simp [none, start]
  · have filled : base.text.toList ≠ [] := mt String.toList_eq_nil_iff.mp none
    split
    · rw [String.toList_append, List.head?_append_of_ne_nil _ filled]
    · rw [String.toList_append, String.toList_append, List.append_assoc, List.head?_append_of_ne_nil _ filled]

/-- A relative path that is seen from where another is has the parts of that, but for the last, and its own. -/
theorem parts_beside (parent : left.parent? = some base) (some : left.parts ≠ [])
    (relative : ¬ path.isAbsolute = true) (directory : Path) :
    (directory.join (base.join path)).parts = (directory.join left).parts.dropLast ++ path.parts := by
  obtain ⟨-, nothing⟩ | ⟨other, found, parts, same⟩ := parent?_cases left
  · exact absurd nothing some
  obtain rfl : base = other := Option.some.inj (parent.symm.trans found)
  have start := isAbsolute_join_of_relative relative base
  by_cases absolute : left.isAbsolute = true
  · rw [absolute] at same
    rw [same] at start
    rw [join_of_isAbsolute start, join_of_isAbsolute absolute, parts_join relative, parts]
  · have front : ¬ (base.join path).isAbsolute = true := by rwa [start, same]
    rw [parts_join front, parts_join relative, parts_join absolute, parts, List.dropLast_append_of_ne_nil some,
      List.append_assoc]

theorem key_beside (rooted : directory.isAbsolute = true)
    (same : (directory.join left).parts = (directory.join right).parts) (someLeft : left.parts ≠ [])
    (someRight : right.parts ≠ []) (filled : path.text ≠ "") :
    ((left.parent?.elim path (·.join path)).absolute directory).key =
      ((right.parent?.elim path (·.join path)).absolute directory).key := by
  by_cases absolute : path.isAbsolute = true
  · have stays (parent : Option Path) : parent.elim path (·.join path) = path := by
      cases parent with
      | none => rfl
      | some base => exact join_of_isAbsolute absolute base
    rw [stays, stays]
  · obtain ⟨-, nothing⟩ | ⟨first, foundLeft, -⟩ := parent?_cases left
    · exact absurd nothing someLeft
    obtain ⟨-, nothing⟩ | ⟨second, foundRight, -⟩ := parent?_cases right
    · exact absurd nothing someRight
    have fullLeft := Disk.isEmpty_join filled first
    have fullRight := Disk.isEmpty_join filled second
    rw [foundLeft, foundRight, Option.elim_some, Option.elim_some,
      key_of_isAbsolute (isAbsolute_absolute rooted fullLeft),
      key_of_isAbsolute (isAbsolute_absolute rooted fullRight), parts_absolute fullLeft, parts_absolute fullRight,
      parts_beside foundLeft someLeft absolute, parts_beside foundRight someRight absolute, same]

theorem parts_of_absolute (rooted : directory.isAbsolute = true) (filled : path.isEmpty = false) :
    (directory.join (path.absolute directory)).parts = (directory.join path).parts := by
  rw [join_of_isAbsolute (isAbsolute_absolute rooted filled), parts_absolute filled]

end Path

namespace Disk

theorem parts_of_found_file {content : ByteArray} {place : Place} {time : Timestamp}
    (there : volume.root.get? volume.here = some (.directory entries modified))
    (found : volume.find true path = .ok (place, .file content time)) : path.parts ≠ [] := by
  intro none
  obtain ⟨start, steps⟩ := itinerary_key volume.here path
  have nowhere : path.key.filterMap stepOf? = [] := by
    by_cases absolute : path.isAbsolute = true
    · rw [Path.key_of_isAbsolute absolute, none]
      rfl
    · have dropped := Path.filterMap_dropCurrent path.components
      rw [Path.dropCurrent_of_relative absolute, none] at dropped
      exact dropped.symm
  have walked := walk_fewer (find_walks found) (moves_fewer _)
  rw [start, steps, nowhere] at walked
  -- Without a step the path ends where it starts: at the root or in the working directory.
  have above : ∃ inner changed, volume.root.get? (if path.key.head? = some .root then [] else volume.here) =
      some (.directory inner changed) := by
    split
    · cases here : volume.here with
      | nil => exact ⟨entries, modified, by rwa [here] at there⟩
      | cons name rest =>
        rw [here] at there
        obtain ⟨inner, changed, same⟩ := Node.directory_of_get? there
        exact ⟨inner, changed, congrArg some same⟩
    · exact ⟨entries, modified, there⟩
  obtain ⟨inner, changed, directory⟩ := above
  rw [walk, directory] at walked
  cases walked

end Disk

namespace Settings

def relevant (host : Host Act) (load : Act (Except Error Settings)) : Act (Except Error (List Path)) := do
  match ← load with
  | .error error => return .error error
  | .ok settings => return .ok (← (Lookup.ofSettings settings).find host none)

def located (directory : Path) (file : Option Path) (tagFiles : List Path) : List Path :=
  tagFiles.map fun path => ((file.bind Path.parent?).elim path (·.join path)).absolute directory

theorem run_relevant (quiet : Machine.Quiet host) {load : Act (Except Error Settings)} {file : Option Path}
    (answers : Machine.Answers machine.volume load (settingsIn machine.volume file)) :
    ((relevant host load).run machine).1 = (settingsIn machine.volume file).map fun settings =>
      located machine.volume.workingDirectory file settings.tagFiles := by
  obtain ⟨answer, kept⟩ := answers machine rfl
  rw [relevant, Cache.run_bind, answer]
  cases loaded : settingsIn machine.volume file with
  | error error => rfl
  | ok settings =>
    obtain ⟨ready, same, found, -⟩ := Command.find_run quiet settings none (load.run machine).2
    have base := Machine.base_of_settingsIn loaded
    have nothing (tagger : Option Tagger) : Command.printed host tagger none ready = ([], ready) := by
      cases tagger <;> rfl
    rw [nothing, List.append_nil, Command.resolved_eq, List.map_map, same, kept, base] at found
    exact congrArg Except.ok found

theorem settingsIn_alike (same : volume.read right = volume.read left)
    (loaded : settingsIn volume (some left) = .ok settings) :
    settingsIn volume (some right) = .ok { settings with base := right.parent? } := by
  simp only [settingsIn] at loaded ⊢
  rw [same]
  cases content : volume.read left with
  | error failure => simp [content] at loaded
  | ok octets =>
    simp only [content] at loaded ⊢
    unfold ofContent at loaded ⊢
    cases text : Text.readStrict? octets with
    | none => simp [text] at loaded
    | some text =>
      simp only [text] at loaded ⊢
      obtain ⟨others, read, same⟩ := Pattern.ok_of_bind loaded
      cases same
      rw [read]
      rfl

theorem relevant_alike (quiet : Machine.Quiet host) {first second : Act (Except Error Settings)}
    (answersFirst : Machine.Answers machine.volume first (settingsIn machine.volume (some left)))
    (answersSecond : Machine.Answers machine.volume second (settingsIn machine.volume (some right)))
    (loaded : settingsIn machine.volume (some left) = .ok settings)
    (filled : ∀ tagFile ∈ settings.tagFiles, tagFile.text ≠ "")
    (read : machine.volume.read right = machine.volume.read left)
    (same : (machine.volume.workingDirectory.join left).parts = (machine.volume.workingDirectory.join right).parts)
    (someLeft : left.parts ≠ []) (someRight : right.parts ≠ []) :
    ∃ files others, ((relevant host first).run machine).1 = .ok files ∧
      ((relevant host second).run machine).1 = .ok others ∧ files.map Path.key = others.map Path.key := by
  have rooted : machine.volume.workingDirectory.isAbsolute = true :=
    Path.isAbsolute_iff.mpr (by rw [Command.toList_workingDirectory]; rfl)
  refine ⟨located machine.volume.workingDirectory (some left) settings.tagFiles,
    located machine.volume.workingDirectory (some right) settings.tagFiles, ?_, ?_, ?_⟩
  · rw [run_relevant quiet answersFirst, loaded]
    rfl
  · rw [run_relevant quiet answersSecond, settingsIn_alike read loaded]
    rfl
  · rw [located, located, List.map_map, List.map_map]
    refine List.map_congr_left fun tagFile inside => ?_
    simp only [Function.comp_apply, Option.bind_some]
    exact Path.key_beside rooted same someLeft someRight (filled tagFile inside)

theorem found_of_settingsIn (loaded : settingsIn volume (some path) = .ok settings) :
    ∃ place content time, volume.find true path = .ok (place, .file content time) := by
  simp only [settingsIn] at loaded
  cases read : volume.read path with
  | error failure => simp [read] at loaded
  | ok octets =>
    unfold Volume.read at read
    obtain ⟨⟨place, node⟩, found, held⟩ := Pattern.ok_of_bind read
    cases node with
    | file content time => exact ⟨place, content, time, found⟩
    | directory entries modified => cases held
    | link target => cases held

theorem read_of_found {found : Place × Node} (foundLeft : volume.find true left = .ok found)
    (foundRight : volume.find true right = .ok found) : volume.read right = volume.read left := by
  rw [Volume.read, Volume.read, foundLeft, foundRight]

theorem find_dotted {place : Place} {node : Node} (found : volume.find true fileName = .ok (place, node)) :
    volume.find true ⟨"./.tagcomplete.jsonc"⟩ = .ok (place, node) := by
  have walked := Disk.find_walks found
  have steps : Disk.stepsOf "./.tagcomplete.jsonc".toList = .stay :: Disk.stepsOf fileName.text.toList := by
    decide +kernel
  rw [Disk.itinerary_of_relative _ (by decide)] at walked
  have noNul : "./.tagcomplete.jsonc".contains '\x00' = false := by
    rw [String.contains_char_eq]
    decide
  refine Disk.find_of_walk noNul (by decide) (by decide) ?_
  rw [Disk.itinerary_of_relative _ (by decide), steps, Disk.walk]
  exact walked

/-- It does not matter by which path settings are loaded: the path of their file and its absolute form lead to the same
    tag files, if the system takes that form, and so do the usual name and the file that is discovered under it. -/
theorem same_files_by_any_path (quiet : Machine.Quiet host)
    (there : machine.volume.root.get? machine.volume.here = some (.directory entries modified))
    (proper : ∀ name ∈ machine.volume.here, IsFileName name) :
    (∀ path settings, ((ofFile host path).run machine).1 = .ok settings →
      (∀ tagFile ∈ settings.tagFiles, tagFile.text ≠ "") →
      (path.absolute machine.volume.workingDirectory).text.utf8ByteSize ≤ pathLimit →
      ∃ files others, ((relevant host (ofFile host path)).run machine).1 = .ok files ∧
        ((relevant host (ofFile host (path.absolute machine.volume.workingDirectory))).run machine).1 = .ok others ∧
        files.map Path.key = others.map Path.key) ∧
    ∀ settings, ((Command.loadSettings host (some fileName)).run machine).1 = .ok settings →
      (∀ tagFile ∈ settings.tagFiles, tagFile.text ≠ "") →
      ∃ files others, ((relevant host (Command.loadSettings host (some fileName))).run machine).1 = .ok files ∧
        ((relevant host (Command.loadSettings host none)).run machine).1 = .ok others ∧
        files.map Path.key = others.map Path.key := by
  have rooted : machine.volume.workingDirectory.isAbsolute = true :=
    Path.isAbsolute_iff.mpr (by rw [Command.toList_workingDirectory]; rfl)
  have loading (path : Path) := (quiet.asks_ofFile path).answers machine.volume
  constructor
  · intro path settings accepted filled short
    have loaded : settingsIn machine.volume (some path) = .ok settings :=
      (loading path machine rfl).1.symm.trans accepted
    obtain ⟨place, content, time, found⟩ := found_of_settingsIn loaded
    have absolute := Disk.find_absolute there proper found short
    obtain ⟨some, -⟩ := Disk.readable_of_find found
    exact relevant_alike quiet (loading path) (loading _) loaded filled (read_of_found found absolute)
      (Path.parts_of_absolute rooted some).symm (Disk.parts_of_found_file there found)
      (Disk.parts_of_found_file there absolute)
  · intro settings accepted filled
    have loaded : settingsIn machine.volume (some fileName) = .ok settings :=
      (loading fileName machine rfl).1.symm.trans accepted
    obtain ⟨place, content, time, found⟩ := found_of_settingsIn loaded
    have dotted := find_dotted found
    have first : settingsFile? none machine.volume = some ⟨"./.tagcomplete.jsonc"⟩ := by
      have name : (⟨"."⟩ : Path).join fileName = ⟨"./.tagcomplete.jsonc"⟩ := by decide +kernel
      have file : machine.volume.isFile ⟨"./.tagcomplete.jsonc"⟩ = true := by rw [Volume.isFile, dotted]
      rw [settingsFile?, Option.none_or, fileNames, List.map_cons, name, List.find?_cons_of_pos file]
    have discovering := (quiet.asks_loadSettings none).answers machine.volume
    rw [first] at discovering
    have same : (machine.volume.workingDirectory.join fileName).parts =
        (machine.volume.workingDirectory.join ⟨"./.tagcomplete.jsonc"⟩).parts := by
      rw [Path.parts_join (by decide +kernel), Path.parts_join (by decide +kernel)]
      exact congrArg _ (by decide +kernel)
    exact relevant_alike quiet (loading fileName) discovering loaded filled (read_of_found found dotted) same
      (Disk.parts_of_found_file there found) (Disk.parts_of_found_file there dotted)

def oneTagFile : String := "\x7b\"tagFiles\":[\"t\"]\x7d"

def alone (here : Place) (name : String) : Machine where
  volume := { root := Node.along (here ++ [name]) (.file oneTagFile.toUTF8 ⟨0, 0⟩), here, now := ⟨0, 0⟩ }

theorem ofText_oneTagFile : ofText oneTagFile = .ok { tagFiles := [⟨"t"⟩] } := by
  have read : (ofText oneTagFile).toOption = some { tagFiles := [⟨"t"⟩] } := by decide +kernel
  cases result : ofText oneTagFile with
  | error error =>
    rw [result] at read
    cases read
  | ok settings =>
    rw [result] at read
    exact congrArg Except.ok (Option.some.inj read)

theorem loaded_alone (here : Place) {name : String} (own : IsFileName name) :
    ((ofFile Machine.host ⟨name⟩).run (alone here name)).1 =
      .ok { tagFiles := [⟨"t"⟩], base := (⟨name⟩ : Path).parent? } := by
  have text : Path.ofNames [name] = ⟨name⟩ := by simp [Path.ofNames]
  have there : (alone here name).volume.root.get? (here ++ [name]) = some (.file oneTagFile.toUTF8 ⟨0, 0⟩) := by
    have leads := Node.get?_along (here ++ [name]) [] (.file oneTagFile.toUTF8 ⟨0, 0⟩)
    rwa [List.append_nil] at leads
  have short : (Path.ofNames [name]).text.utf8ByteSize ≤ pathLimit := by
    have limits : Disk.nameLimit ≤ pathLimit := by decide
    rw [text]
    exact own.short.trans limits
  have found := Path.find_ofNames (List.cons_ne_nil name []) (by simpa using own) there (by simp) short
  rw [text] at found
  have read : (alone here name).volume.read ⟨name⟩ = .ok oneTagFile.toUTF8 := by
    rw [Volume.read, Volume.find]
    exact congrArg (· >>= _) found
  rw [((Machine.quiet_host.asks_ofFile ⟨name⟩) (alone here name)).1]
  simp only [settingsIn, read, ofContent, Text.readStrict?_toUTF8, ofText_oneTagFile]
  rfl

theorem directory_alone (here : Place) (name : String) : ∃ entries modified,
    (alone here name).volume.root.get? (alone here name).volume.here = some (.directory entries modified) :=
  ⟨_, _, Node.get?_along here [name] _⟩

theorem same_files_by_any_path_of_usual_name :
    (∃ files others, ((relevant Machine.host (ofFile Machine.host fileName)).run (alone ["w"] fileName.text)).1 =
        .ok files ∧
      ((relevant Machine.host (ofFile Machine.host ⟨"/w/.tagcomplete.jsonc"⟩)).run (alone ["w"] fileName.text)).1 =
        .ok others ∧ files.map Path.key = others.map Path.key) ∧
    ∃ files others, ((relevant Machine.host (Command.loadSettings Machine.host (some fileName))).run
        (alone ["w"] fileName.text)).1 = .ok files ∧
      ((relevant Machine.host (Command.loadSettings Machine.host none)).run (alone ["w"] fileName.text)).1 =
        .ok others ∧ files.map Path.key = others.map Path.key := by
  have own : IsFileName fileName.text := by constructor <;> decide
  have here : ∀ name ∈ ["w"], IsFileName name := List.forall_mem_singleton.mpr (by constructor <;> decide)
  obtain ⟨entries, modified, there⟩ := directory_alone ["w"] fileName.text
  have loaded := loaded_alone ["w"] own
  have filled : ∀ tagFile ∈ [(⟨"t"⟩ : Path)], tagFile.text ≠ "" := by decide
  have absolute : fileName.absolute (alone ["w"] fileName.text).volume.workingDirectory =
      ⟨"/w/.tagcomplete.jsonc"⟩ := by decide +kernel
  obtain ⟨byPath, byName⟩ := same_files_by_any_path Machine.quiet_host there here
  have spelt := byPath fileName _ loaded filled (by rw [absolute]; decide)
  rw [absolute] at spelt
  exact ⟨spelt, byName _ loaded filled⟩

/-- In a deep directory, the path of a file with settings may be taken by the system, but not its absolute path: the
    settings can be loaded by the one, and not by the other. -/
theorem not_loaded_by_absolute_path :
    let machine := alone (List.replicate 20 (repeatedName 200)) (repeatedName 80)
    let path : Path := ⟨repeatedName 80⟩
    (∃ settings, ((ofFile Machine.host path).run machine).1 = .ok settings ∧ settings.tagFiles = [⟨"t"⟩]) ∧
      ∃ error,
        ((ofFile Machine.host (path.absolute machine.volume.workingDirectory)).run machine).1 = .error error := by
  intro machine path
  have own : IsFileName (repeatedName 80) := isFileName_repeatedName (by decide) (by decide)
  have start : ∀ name ∈ List.replicate 20 (repeatedName 200), IsFileName name := by
    intro name inside
    rw [(List.mem_replicate.mp inside).2]
    exact isFileName_repeatedName (by decide) (by decide)
  refine ⟨⟨_, loaded_alone _ own, rfl⟩, ?_⟩
  have tooLong : pathLimit < (path.absolute machine.volume.workingDirectory).text.utf8ByteSize := by
    have text : path = Path.ofNames [repeatedName 80] := by simp [path, Path.ofNames]
    have rooted : path.absolute machine.volume.workingDirectory =
        Path.rootedNames (List.replicate 20 (repeatedName 200) ++ [repeatedName 80]) :=
      (congrArg (·.absolute machine.volume.workingDirectory) text).trans
        (Path.absolute_ofNames (by simp) (List.forall_mem_singleton.mpr own) start)
    rw [rooted, Path.size_rootedNames (by simp)]
    simp [utf8ByteSize_repeatedName]
    decide
  obtain ⟨failure, nothing⟩ := Disk.find_of_long tooLong
  have unread : machine.volume.read (path.absolute machine.volume.workingDirectory) = .error failure := by
    rw [Volume.read, Volume.find, nothing]
    rfl
  refine ⟨.unreadable failure, ?_⟩
  rw [((Machine.quiet_host.asks_ofFile _) machine).1]
  simp only [settingsIn, unread]

end Settings

end TagMenu
