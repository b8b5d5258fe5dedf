import Mathlib
import TagMenu.Proofs.Command.Direct
import TagMenu.Proofs.Command.Search
import TagMenu.Proofs.Settings.Kept

namespace TagMenu.Command

open Disk (Node Place Timestamp Volume pathLimit)
open Machine (Act Quiet Answers answers_return)

variable {host : Host Act} {table : Unicode.NameTable} {machine : Machine} {volume : Volume}
  {entries : List (FileName × Node)} {modified time : Timestamp} {content : ByteArray} {force : Bool} {node : Node}
  {names : Place} {way : List FileName} {depth : Nat}

/-- The working directory is there, files below it have proper names, and what has the name for settings in it is a
    file, if there is anything. -/
structure Ready (volume : Volume) (entries : List (FileName × Node)) (modified : Timestamp) : Prop where
  there : volume.root.get? volume.here = some (.directory entries modified)
  proper : ∀ name ∈ volume.here, IsFileName name
  formed : (Node.directory entries modified).Formed
  settings : ∀ node, entries.lookup (.ofText Settings.fileName.text) = some node →
    ∃ content time, node = .file content time

theorem settingsName : IsFileName Settings.fileName.text := by
  constructor <;> decide

theorem isHidden_settings : isHidden (.ofText Settings.fileName.text) = true := isHidden_ofText.mpr rfl

theorem fileName_eq : Settings.fileName = Path.ofNames [Settings.fileName.text] := by decide

theorem Ready.resolve (ready : Ready volume entries modified) :
    Disk.resolve volume.root volume.here true Settings.fileName =
      .ok (match entries.lookup (.ofText Settings.fileName.text) with
        | some node => .found (volume.here ++ [Settings.fileName.text]) node
        | none => .vacant (volume.here ++ [Settings.fileName.text]) false) := by
  have proper : ∀ name ∈ [Settings.fileName.text], IsFileName name := List.forall_mem_singleton.mpr settingsName
  have short : ¬ Settings.fileName.text.utf8ByteSize > Disk.nameLimit := Nat.not_lt.mpr settingsName.short
  have inside : volume.root.get? (volume.here ++ [Settings.fileName.text]) =
      entries.lookup (.ofText Settings.fileName.text) := by
    rw [Node.get?_of_directory ready.there]
    simp
  conv_lhs => rw [fileName_eq]
  rw [Path.resolve_ofNames (by simp) proper (by decide), List.map_singleton, Disk.walk, if_neg short, inside]
  cases found : entries.lookup (.ofText Settings.fileName.text) with
  | none => rfl
  | some node =>
    obtain ⟨content, time, rfl⟩ := ready.settings node found
    rfl

theorem Ready.exists? (ready : Ready volume entries modified) :
    volume.exists? Settings.fileName = (entries.lookup (.ofText Settings.fileName.text)).isSome := by
  rw [Volume.exists?, Volume.find, Disk.find, ready.resolve]
  cases entries.lookup (.ofText Settings.fileName.text) <;> rfl

def withSettings (volume : Volume) (content : ByteArray) : Volume :=
  volume.put (volume.here ++ [Settings.fileName.text]) (some (.file content volume.now))

theorem Ready.write (ready : Ready volume entries modified) (content : ByteArray) :
    volume.write Settings.fileName content = .ok (withSettings volume content) := by
  rw [Volume.write, ready.resolve]
  cases found : entries.lookup (.ofText Settings.fileName.text) with
  | none => rfl
  | some node =>
    obtain ⟨old, time, rfl⟩ := ready.settings node found
    rfl

theorem Ready.read (ready : Ready volume entries modified)
    (found : entries.lookup (.ofText Settings.fileName.text) = some (.file content time)) :
    volume.read Settings.fileName = .ok content := by
  rw [Volume.read, Volume.find, Disk.find, ready.resolve, found]
  rfl

theorem formed_setEntry (formed : (Node.directory entries modified).Formed) {name : String} (proper : IsFileName name)
    (content : ByteArray) (changed time : Timestamp) :
    (Node.directory (Node.setEntry name (some (.file content changed)) entries) time).Formed := by
  have keys := Node.keys_setEntry name (.file content changed) entries
  have distinct : ((Node.setEntry name (some (.file content changed)) entries).map (·.1)).Nodup := by
    rw [keys]
    split
    · exact formed.distinct [] entries modified rfl
    case isFalse fresh =>
      exact (formed.distinct [] entries modified rfl).append (List.nodup_singleton _) (by simpa using fresh)
  have named : ∀ key ∈ (Node.setEntry name (some (.file content changed)) entries).map (·.1),
      ∃ text, key = .ofText text ∧ IsFileName text := by
    have each : ∀ key ∈ entries.map (·.1), ∃ text, key = .ofText text ∧ IsFileName text :=
      List.forall_mem_map.mpr (formed.named [] entries modified rfl)
    rw [keys]
    split
    · exact each
    · exact List.forall_mem_append.mpr ⟨each, List.forall_mem_singleton.mpr ⟨name, rfl, proper⟩⟩
  refine Node.formed_directory distinct (fun entry inside => ⟨named _ (List.mem_map_of_mem inside), ?_⟩) _
  obtain ⟨key, node⟩ := entry
  have listed := lookup_of_mem distinct inside
  rw [Node.lookup_setEntry] at listed
  split at listed
  · cases listed
    exact Node.formed_file content changed
  · exact formed.below (Node.below?_singleton listed modified)

theorem Ready.later (ready : Ready volume entries modified) (content : ByteArray) :
    Ready (withSettings volume content) (Node.setEntry Settings.fileName.text (some (.file content volume.now)) entries)
      (if (entries.lookup (.ofText Settings.fileName.text)).isSome then modified else volume.now) where
  there := Node.get?_put ready.there volume.now _ _
  proper := ready.proper
  formed := formed_setEntry ready.formed settingsName content volume.now _
  settings := by
    intro node found
    rw [Node.lookup_setEntry, if_pos rfl] at found
    exact ⟨content, volume.now, (Option.some.inj found).symm⟩

theorem foundWays_setEntry {name : FileName} (hidden : isHidden name = true) (new : Node) (time : Timestamp)
    (path : Path) :
    foundWays path (.directory (Node.setEntry name (some new) entries) time) =
      foundWays path (.directory entries modified) := by
  have none : ∀ below node, entryWays below name node = [] := fun below node => if_pos hidden
  have same : ∀ below : Node → List (List FileName),
      (Node.setEntry name (some new) entries).flatMap (fun entry => entryWays below entry.1 entry.2) =
        entries.flatMap fun entry => entryWays below entry.1 entry.2 := by
    intro below
    induction entries with
    | nil => simp [Node.setEntry, none]
    | cons entry rest ih =>
      obtain ⟨first, kept⟩ := entry
      by_cases here : first = name
      · simp [Node.setEntry, here, none]
      · simp [Node.setEntry, here, ih]
  rw [foundWays, foundWays, searchDepth, tagWays, tagWays]
  exact congrArg (fun ways => FileName.sort (ways.filter (InReach path ·))) (same _)

def foundPlaces (node : Node) : List Place := (foundWays ⟨"."⟩ node).map (·.filterMap FileName.text?)

theorem place_of_foundWays (formed : node.Formed) (found : way ∈ foundWays ⟨"."⟩ node) :
    ∃ place : Place, way = place.map .ofText ∧ ∀ name ∈ place, IsFileName name := by
  obtain ⟨content, time, there⟩ := ((mem_foundWays formed.distinct).mp found).1.file
  exact formed.place_of_below? there

theorem texts_of_place (place : Place) : (place.map FileName.ofText).filterMap FileName.text? = place := by
  simp [List.filterMap_map, FileName.text?_ofText]

theorem map_foundPlaces (formed : node.Formed) : (foundPlaces node).map (·.map .ofText) = foundWays ⟨"."⟩ node := by
  rw [foundPlaces, List.map_map]
  conv_rhs => rw [← List.map_id (foundWays ⟨"."⟩ node)]
  refine List.map_congr_left fun way found => ?_
  obtain ⟨place, rfl, -⟩ := place_of_foundWays formed found
  exact congrArg (List.map FileName.ofText) (texts_of_place place)

theorem TagFileAt.inReach (file : TagFileAt searchDepth node way) (formed : node.Formed) : InReach ⟨"."⟩ way := by
  obtain ⟨content, time, there⟩ := file.file
  obtain ⟨place, rfl, proper⟩ := formed.place_of_below? there
  have near : place.dropLast.length ≤ 2 := by
    have all := file.near
    simp only [List.length_map, searchDepth] at all
    rw [List.length_dropLast]
    omega
  have each : ∀ size ∈ place.dropLast.map (·.utf8ByteSize + 1), size ≤ 256 := by
    refine List.forall_mem_map.mpr fun name inside => Nat.succ_le_succ ?_
    exact (proper name (List.mem_of_mem_dropLast inside)).short
  have sum := List.sum_le_card_nsmul _ _ each
  rw [List.length_map, smul_eq_mul] at sum
  have ends : (⟨"."⟩ : Path).text.endsWith "/" = false := by decide +kernel
  have size : Volume.sizeBelow ⟨"."⟩ (place.map .ofText).dropLast =
      1 + (place.dropLast.map (·.utf8ByteSize + 1)).sum := by
    rw [Volume.sizeBelow_eq, ends, ← List.map_dropLast, List.map_map]
    simp [Function.comp_def, FileName.length_ofText]
    rfl
  have limit : Disk.pathLimit = 4095 := rfl
  rw [InReach, size, limit]
  omega

theorem mem_map_foundPlaces (formed : node.Formed) :
    way ∈ (foundPlaces node).map (·.map .ofText) ↔ TagFileAt searchDepth node way := by
  rw [map_foundPlaces formed, mem_foundWays formed.distinct]
  exact and_iff_left_of_imp fun file => file.inReach formed

theorem pairwise_foundPlaces (formed : node.Formed) : (foundPlaces node).Pairwise (· < ·) := by
  have sorted := pairwise_foundWays formed.distinct ⟨"."⟩
  rw [← map_foundPlaces formed, List.pairwise_map] at sorted
  exact sorted.imp FileName.key_lt_key_iff.mp

theorem proper_of_foundPlaces (formed : node.Formed) :
    ∀ names ∈ foundPlaces node, names ≠ [] ∧ ∀ name ∈ names, IsFileName name := by
  intro names inside
  have file := (mem_map_foundPlaces formed).mp (List.mem_map_of_mem inside)
  obtain ⟨content, time, there⟩ := file.file
  obtain ⟨place, same, proper⟩ := formed.place_of_below? there
  obtain rfl := FileName.map_ofText_injective same
  exact ⟨fun none => file.filled (by simp [none]), proper⟩

theorem pathOf?_map (names : Place) : pathOf? (names.map .ofText) = some (Path.ofNames names) := by
  have texts : (names.map FileName.ofText).mapM (·.text?) = some names := by
    rw [List.mapM_map, show (·.text?) ∘ FileName.ofText = fun name => some name from funext FileName.text?_ofText]
    exact List.mapM_pure.trans (congrArg some (List.map_id names))
  rw [pathOf?, texts]
  rfl

theorem mapM_pathOf? (formed : node.Formed) :
    (foundWays ⟨"."⟩ node).mapM pathOf? = some ((foundPlaces node).map Path.ofNames) := by
  rw [← map_foundPlaces formed, List.mapM_map,
    show (pathOf? ∘ fun place => place.map .ofText) = fun place => some (Path.ofNames place) from funext pathOf?_map]
  exact List.mapM_pure

theorem init_refused (quiet : Quiet host) (taken : machine.volume.exists? Settings.fileName = true) :
    ((init host false).run machine).1 = .error (.settingsExist Settings.fileName) ∧
      ((init host false).run machine).2.volume = machine.volume := by
  have asking : (host.exists? Settings.fileName).run machine =
      (machine.volume.exists? Settings.fileName, machine) := quiet.run_ask (·.exists? Settings.fileName) machine
  rw [init, Cache.run_bind, asking, taken]
  exact ⟨rfl, rfl⟩

theorem write_run (quiet : Quiet host) (ready : Ready volume entries modified) (content : ByteArray)
    (same : machine.volume = volume) :
    let act : Act (Except Failure Outcome) := do
      match ← host.write Settings.fileName content with
      | .error failure => return .error (.unwritable failure)
      | .ok () =>
        host.report .information ("Created " ++ Settings.fileName.text)
        return .ok { status := 0 }
    (act.run machine).1 = .ok { status := 0 } ∧ (act.run machine).2.volume = withSettings volume content := by
  subst same
  have change : (Machine.changing (·.write Settings.fileName content)).run machine =
      (.ok (), { machine with volume := withSettings machine.volume content }) := by
    have accepted := ready.write content
    simp [Machine.changing, accepted]
    rfl
  have writing : (host.write Settings.fileName content).run machine =
      (.ok (), { machine with volume := withSettings machine.volume content }) :=
    (quiet.run_ask (·.write Settings.fileName content) machine).trans change
  intro act
  rw [show act = _ from rfl, Cache.run_bind, writing]
  exact ⟨rfl, quiet.notes _ _⟩

theorem run_init (table : Unicode.NameTable) (machine : Machine) {arguments : List String} {config : Option Path}
    {verbose : Bool} (asked : readArguments arguments = .invocation ⟨.init force, config, verbose⟩) (quiet : Quiet host)
    {acted : Except Failure Outcome × Machine} (act : (init (host.logging verbose) force).run machine = acted) :
    ((run host table arguments).run machine).1 = acted.1.toOption.getD { status := failureStatus } ∧
      ((run host table arguments).run machine).2.volume = acted.2.volume := by
  rw [run, asked]
  simp only [perform]
  rw [Cache.run_bind, act]
  rcases acted with ⟨failure | outcome, after⟩
  · exact ⟨rfl, (quiet.logging verbose).notes _ _⟩
  · exact ⟨rfl, rfl⟩

theorem init_written (quiet : Quiet host) (ready : Ready machine.volume entries modified)
    (free : machine.volume.exists? Settings.fileName = true → force = true) :
    ((init host force).run machine).1 = .ok { status := 0 } ∧
      ((init host force).run machine).2.volume = withSettings machine.volume
        (settingsText ((foundPlaces (.directory entries modified)).map Path.ofNames)).toUTF8 := by
  have asking : (host.exists? Settings.fileName).run machine =
      (machine.volume.exists? Settings.fileName, machine) := quiet.run_ask (·.exists? Settings.fileName) machine
  have go : (machine.volume.exists? Settings.fileName && !force) = false := by
    cases force <;> simp_all
  have here := find_here ready.there
  obtain ⟨found, kept⟩ := answers_findTagFiles quiet here ready.formed.distinct machine rfl
  have paths := mapM_pathOf? ready.formed
  rw [init, Cache.run_bind, asking]
  simp only [go]
  rw [if_neg (by decide), Cache.run_bind, found]
  simp only [paths]
  split
  · rw [Cache.run_bind]
    exact write_run quiet ready _ ((quiet.notes _ _).trans kept)
  · exact write_run quiet ready _ kept

theorem ofContent_settingsText (files : List Path) :
    Settings.ofContent Settings.fileName (settingsText files).toUTF8 =
      .ok { tagFiles := files, base := some ⟨""⟩ } := by
  have wellFormed : Settings.WellFormed { tagFiles := files } := ⟨by simp, by simp, by simp, rfl⟩
  have parsed : Settings.ofText (settingsText files) = .ok { tagFiles := files } :=
    Settings.ofText_of_written wellFormed (Json.read_pretty_newline (Settings.plain_toJson _))
  have parent : Settings.fileName.parent? = some ⟨""⟩ := by decide
  rw [Settings.ofContent, Text.readStrict?_toUTF8]
  simp only [parsed, parent]
  rfl

theorem find_written (quiet : Quiet host) (proper : ∀ name ∈ machine.volume.here, IsFileName name)
    {places : List Place} (each : ∀ names ∈ places, names ≠ [] ∧ ∀ name ∈ names, IsFileName name) (file : Option Path) :
    (((Lookup.ofSettings { tagFiles := places.map Path.ofNames, base := some ⟨""⟩ }).find host file).run machine).1 =
      places.map fun names => Path.rootedNames (machine.volume.here ++ names) := by
  obtain ⟨later, same, paths, -⟩ :=
    find_run quiet { tagFiles := places.map Path.ofNames, base := some ⟨""⟩ } file machine
  rw [paths]
  simp only [printed, List.append_nil, Settings.resolved, List.map_map, same]
  refine List.map_congr_left fun names inside => ?_
  obtain ⟨filled, named⟩ := each names inside
  have relative : ¬ (Path.ofNames names).isAbsolute = true := fun absolute =>
    Path.head?_ofNames filled (Path.plain_of_proper named) (Path.isAbsolute_iff.mp absolute)
  have joined : (⟨""⟩ : Path).join (Path.ofNames names) = Path.ofNames names := by
    rw [Path.join, if_neg relative]
    simp
  show ((⟨""⟩ : Path).join (Path.ofNames names)).absolute (Path.rootedNames machine.volume.here) = _
  rw [joined, Path.absolute_ofNames filled named proper]

theorem Ready.read_written (ready : Ready volume entries modified) (content : ByteArray) :
    (withSettings volume content).read Settings.fileName = .ok content :=
  (ready.later content).read (by rw [Node.lookup_setEntry, if_pos rfl])

theorem Ready.get?_written (ready : Ready volume entries modified) (content : ByteArray)
    (file : TagFileAt depth (.directory entries modified) (names.map .ofText)) :
    ∃ content' time, (withSettings volume content).root.get? (volume.here ++ names) = some (.file content' time) := by
  obtain ⟨first, rest, rfl⟩ := List.exists_cons_of_ne_nil (mt List.map_eq_nil_iff.mpr file.filled)
  obtain ⟨old, time, found⟩ := file.file
  have other : FileName.ofText first ≠ .ofText Settings.fileName.text := by
    rw [ne_eq, FileName.ofText_inj]
    rintro rfl
    have shown := file.shown _ (List.mem_cons_self ..)
    rw [isHidden_settings] at shown
    cases shown
  refine ⟨old, time, ?_⟩
  have there := (ready.later content).there
  rw [show (withSettings volume content).here = volume.here from rfl] at there
  rw [Node.get?_of_directory there, Node.lookup_setEntry, if_neg other]
  exact found

theorem isFile_rootedNames {place : Place} (filled : place ≠ []) (proper : ∀ name ∈ place, IsFileName name)
    (there : volume.root.get? place = some (.file content time))
    (short : (Path.rootedNames place).text.utf8ByteSize ≤ pathLimit) :
    volume.isFile (Path.rootedNames place) = true := by
  have found : volume.find true (Path.rootedNames place) = .ok (place, .file content time) :=
    Path.find_rootedNames filled proper there (by simp) short
  rw [Volume.isFile, found]

theorem Ready.reread (ready : Ready volume entries modified) (quiet : Quiet host) {files : List Path}
    (after : machine.volume = withSettings volume (settingsText files).toUTF8) :
    ((Settings.ofFile host Settings.fileName).run machine).1 = .ok { tagFiles := files, base := some ⟨""⟩ } := by
  refine (quiet.asks_ofFile Settings.fileName machine).1.trans ?_
  simp only [Machine.settingsIn, after, ready.read_written]
  exact ofContent_settingsText files

/-- Without the permission to do so, new settings are not written over others, and nothing is changed. Otherwise they
    name the tag files that are found, in order, and are the usual ones in everything else. They are read as they are
    meant, the same absolute paths are looked up from them, and files are there, as far as the system takes their
    absolute paths. Once more, the same is written. -/
theorem init_writes_what_it_finds (host : Host Act) (table : Unicode.NameTable) (arguments : List String)
    (machine : Machine) (force : Bool) (config : Option Path) (verbose : Bool) (entries : List (FileName × Node))
    (modified : Timestamp) (quiet : Quiet host) (ready : Ready machine.volume entries modified)
    (asked : readArguments arguments = .invocation ⟨.init force, config, verbose⟩) :
    let taken := (entries.lookup (.ofText Settings.fileName.text)).isSome
    let ran := (run host table arguments).run machine
    (taken = true → force = false → ran.1 = { status := 2 } ∧ ran.2.volume = machine.volume) ∧
    ((taken = true → force = true) → ∃ places : List Place,
      (places.Pairwise (· < ·) ∧
        ∀ way, way ∈ places.map (List.map FileName.ofText) ↔ TagFileAt 3 (.directory entries modified) way) ∧
      ran.1 = { status := 0 } ∧
      let settings : Settings := { tagFiles := places.map Path.ofNames, base := some ⟨""⟩ }
      ((Settings.ofFile host Settings.fileName).run ran.2).1 = .ok settings ∧
      (∀ file, (((Lookup.ofSettings settings).find host file).run ran.2).1 =
        places.map fun names => Path.rootedNames (machine.volume.here ++ names)) ∧
      (∀ names ∈ places,
        (∃ content time, ran.2.volume.root.get? (machine.volume.here ++ names) = some (.file content time)) ∧
        ((Path.rootedNames (machine.volume.here ++ names)).text.utf8ByteSize ≤ 4095 →
          ran.2.volume.isFile (Path.rootedNames (machine.volume.here ++ names)) = true)) ∧
      ∃ content, ran.2.volume = machine.volume.put (machine.volume.here ++ [Settings.fileName.text])
          (some (.file content machine.volume.now)) ∧
        ran.2.volume.read Settings.fileName = .ok content ∧
        ∀ again otherConfig otherVerbose now notes,
          readArguments again = .invocation ⟨.init true, otherConfig, otherVerbose⟩ →
          let later := (run host table again).run ⟨{ ran.2.volume with now }, notes⟩
          later.1 = { status := 0 } ∧ later.2.volume.read Settings.fileName = .ok content) := by
  intro taken ran
  have quietly := quiet.logging verbose
  obtain ⟨outcome, kept⟩ := run_init table machine asked quiet rfl
  have there : machine.volume.exists? Settings.fileName = taken := ready.exists?
  constructor
  · rintro present rfl
    obtain ⟨refused, same⟩ := init_refused quietly (there.trans present)
    rw [refused] at outcome
    exact ⟨outcome, kept.trans same⟩
  · intro free
    obtain ⟨accepted, volume⟩ := init_written quietly ready (by rwa [there])
    let node : Node := .directory entries modified
    let content := (settingsText ((foundPlaces node).map Path.ofNames)).toUTF8
    have found : ∀ way, way ∈ (foundPlaces node).map (List.map FileName.ofText) ↔ TagFileAt 3 node way := fun _ =>
      mem_map_foundPlaces ready.formed
    have proper := proper_of_foundPlaces ready.formed
    have after : ran.2.volume = withSettings machine.volume content := kept.trans volume
    have readback : ran.2.volume.read Settings.fileName = .ok content := by rw [after, ready.read_written]
    rw [accepted] at outcome
    refine ⟨foundPlaces node, ⟨pairwise_foundPlaces ready.formed, found⟩, outcome, ready.reread quiet after,
      fun file => ?_, fun names inside => ?_, content, after, readback, ?_⟩
    · have same : ran.2.volume.here = machine.volume.here := by rw [after]; rfl
      rw [find_written quiet (by rw [same]; exact ready.proper) proper file, same]
    · rw [after]
      obtain ⟨old, time, there⟩ := ready.get?_written content ((found _).mp (List.mem_map_of_mem inside))
      refine ⟨⟨old, time, there⟩, isFile_rootedNames ?_ ?_ there⟩
      · simp [(proper names inside).1]
      · exact List.forall_mem_append.mpr ⟨ready.proper, (proper names inside).2⟩
    · intro again otherConfig otherVerbose now notes askedAgain later
      have readyAgain := ready.later content
      rw [← after] at readyAgain
      let start : Machine := ⟨{ ran.2.volume with now }, notes⟩
      obtain ⟨outcome, kept⟩ := run_init table start askedAgain quiet rfl
      have readyNow : Ready start.volume _ _ :=
        ⟨readyAgain.there, readyAgain.proper, readyAgain.formed, readyAgain.settings⟩
      obtain ⟨accepted, volume⟩ := init_written (quiet.logging otherVerbose) readyNow (fun _ => rfl)
      rw [accepted] at outcome
      refine ⟨outcome, ?_⟩
      -- The file that was written is hidden, so the second search finds what the first one found.
      rw [kept, volume, foundPlaces, foundWays_setEntry isHidden_settings]
      exact readyNow.read_written content

/-- One name has a quote, a backslash, a control character and more in it, and another file is hidden. -/
theorem init_writes_what_it_finds_of_odd_name :
    let odd := "\"\\\x01 é.tags"
    let file : Node := .file .empty ⟨0, 0⟩
    let entries : List (FileName × Node) := [("x", .directory [("tags", file)] ⟨0, 0⟩),
      (".git", .directory [("tags", file)] ⟨0, 0⟩), (odd, file)]
    let root : Node := .directory [("d", .directory entries ⟨0, 0⟩)] ⟨0, 0⟩
    let machine : Machine := { volume := { root, here := ["d"], now := ⟨1, 0⟩ } }
    let ran := (run Machine.host (fun _ => none) ["init"]).run machine
    Ready machine.volume entries ⟨0, 0⟩ ∧ readArguments ["init"] = .invocation ⟨.init false, none, false⟩ ∧
      ran.1 = { status := 0 } ∧ ((Settings.ofFile Machine.host Settings.fileName).run ran.2).1 =
        .ok { tagFiles := [⟨odd⟩, ⟨"x/tags"⟩], base := some ⟨""⟩ } := by
  intro odd file entries root machine ran
  have proper : ∀ name ∈ ["d", "x", ".git", "tags", odd], IsFileName name := by
    simp only [List.forall_mem_cons]
    exact ⟨by constructor <;> decide, by constructor <;> decide, by constructor <;> decide, by constructor <;> decide,
      by constructor <;> decide, List.forall_mem_nil _⟩
  simp only [List.forall_mem_cons] at proper
  have leaf : file.Formed := Node.formed_file .empty ⟨0, 0⟩
  have inner : (Node.directory [("tags", file)] ⟨0, 0⟩).Formed :=
    Node.formed_directory (by simp) (List.forall_mem_singleton.mpr ⟨⟨"tags", rfl, proper.2.2.2.1⟩, leaf⟩) _
  have formed : (Node.directory entries ⟨0, 0⟩).Formed := by
    refine Node.formed_directory (by decide +kernel) ?_ _
    simp only [entries, List.forall_mem_cons]
    exact ⟨⟨⟨"x", rfl, proper.2.1⟩, inner⟩, ⟨⟨".git", rfl, proper.2.2.1⟩, inner⟩, ⟨⟨odd, rfl, proper.2.2.2.2.1⟩, leaf⟩,
      List.forall_mem_nil _⟩
  have ready : Ready machine.volume entries ⟨0, 0⟩ :=
    ⟨rfl, List.forall_mem_singleton.mpr proper.1, formed, by simp [entries, Settings.fileName, odd]⟩
  have asked : readArguments ["init"] = .invocation ⟨.init false, none, false⟩ := by decide +kernel
  obtain ⟨-, written⟩ := init_writes_what_it_finds Machine.host (fun _ => none) ["init"] machine false none false
    entries ⟨0, 0⟩ Machine.quiet_host ready asked
  obtain ⟨places, ⟨sorted, found⟩, outcome, read, -⟩ := written (by simp [entries, Settings.fileName, odd])
  have tags : tagWays 3 (.directory entries ⟨0, 0⟩) = [["x", "tags"], [odd]].map (List.map FileName.ofText) := by
    decide +kernel
  have all : places = [[odd], ["x", "tags"]] := by
    refine sorted.eq_of_mem_iff (by decide) fun names => ?_
    rw [← List.mem_map_of_injective FileName.map_ofText_injective, found, ← mem_tagWays formed.distinct, tags,
      List.mem_map_of_injective FileName.map_ofText_injective]
    simp [or_comm]
  subst all
  exact ⟨ready, asked, outcome, read⟩

/-- Two directories below a deep one, with the longest names but five, and a tag file in them: its absolute path is too
    long for the system, so that it leads to nothing. -/
theorem init_too_deep :
    let here := List.replicate 18 (repeatedName 200)
    let place := [repeatedName 250, repeatedName 250, "t.tags"]
    let root := Node.along (here ++ place) (.file .empty ⟨0, 0⟩)
    let machine : Machine := { volume := { root, here, now := ⟨0, 0⟩ } }
    let table : Unicode.NameTable := fun _ => none
    let ran := (run Machine.host table ["init"]).run machine
    let below := Node.along [repeatedName 250, "t.tags"] (.file .empty ⟨0, 0⟩)
    Ready machine.volume [(repeatedName 250, below)] ⟨0, 0⟩ ∧
      readArguments ["init"] = .invocation ⟨.init false, none, false⟩ ∧ ran.1 = { status := 0 } ∧
      ∃ settings, ((Settings.ofFile Machine.host Settings.fileName).run ran.2).1 = .ok settings ∧
        ∃ path ∈ (((Lookup.ofSettings settings).find Machine.host none).run ran.2).1,
          ran.2.volume.exists? path = false := by
  intro here place root machine table ran below
  have quiet := Machine.quiet_host
  have long : IsFileName (repeatedName 250) := isFileName_repeatedName (by decide) (by decide)
  have last : IsFileName "t.tags" := by constructor <;> decide
  have proper : ∀ name ∈ place, IsFileName name := by
    simp only [place, List.forall_mem_cons]
    exact ⟨long, long, last, List.forall_mem_nil _⟩
  have start : ∀ name ∈ here, IsFileName name := by
    intro name inside
    rw [(List.mem_replicate.mp inside).2]
    exact isFileName_repeatedName (by decide) (by decide)
  have alone : List.lookup (FileName.ofText Settings.fileName.text) [(.ofText (repeatedName 250), below)] = none := by
    have other : Settings.fileName.text ≠ repeatedName 250 := fun same =>
      absurd ((congrArg String.utf8ByteSize same).trans (utf8ByteSize_repeatedName 250)) (by decide)
    rw [FileName.lookup_ofText, if_neg other]
    rfl
  have ready : Ready machine.volume [(repeatedName 250, below)] ⟨0, 0⟩ :=
    ⟨Node.get?_along here place _, start, Node.formed_along proper .empty ⟨0, 0⟩, by rw [alone]; nofun⟩
  have asked : readArguments ["init"] = .invocation ⟨.init false, none, false⟩ := by decide +kernel
  have free : machine.volume.exists? Settings.fileName = true → false = true := by
    rw [ready.exists?, alone]
    exact id
  obtain ⟨outcome, kept⟩ := run_init table machine asked quiet rfl
  obtain ⟨accepted, volume⟩ := init_written (quiet.logging false) ready free
  rw [accepted] at outcome
  have after := kept.trans volume
  have file : TagFileAt searchDepth (.directory [(repeatedName 250, below)] ⟨0, 0⟩) (place.map .ofText) := by
    have shown := isHidden_repeatedName 250
    refine ⟨by decide, ?_, ⟨.empty, ⟨0, 0⟩, ?_⟩, .ofText "t.tags", rfl, .inr ⟨[0x74], ?_⟩⟩
    · simp only [place, List.map_cons, List.forall_mem_cons]
      exact ⟨shown, shown, by decide +kernel, List.forall_mem_nil _⟩
    · exact Node.get?_along place [] _
    · decide +kernel
  have found : place ∈ foundPlaces (.directory [(repeatedName 250, below)] ⟨0, 0⟩) := by
    rw [← List.mem_map_of_injective FileName.map_ofText_injective, mem_map_foundPlaces ready.formed]
    exact file
  have tooLong : Disk.pathLimit < (Path.rootedNames (here ++ place)).text.utf8ByteSize := by
    rw [Path.size_rootedNames (by simp [place])]
    simp [here, place, utf8ByteSize_repeatedName]
    decide
  refine ⟨ready, asked, outcome, _, ready.reread quiet after, Path.rootedNames (here ++ place), ?_, ?_⟩
  · rw [find_written quiet (by rw [after]; exact start) (proper_of_foundPlaces ready.formed), after]
    exact List.mem_map_of_mem found
  · obtain ⟨failure, nothing⟩ := Disk.find_of_long tooLong
    rw [Volume.exists?, Volume.find, nothing]
    rfl

end TagMenu.Command
