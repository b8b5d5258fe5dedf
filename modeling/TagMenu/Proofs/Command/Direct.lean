import Mathlib
import TagMenu.Command.Run
import TagMenu.Proofs.Cache.Cold
import TagMenu.Proofs.Cache.Groups
import TagMenu.Proofs.Command.Arguments
import TagMenu.Proofs.Command.Asking
import TagMenu.Proofs.Path.Absolute
import TagMenu.Proofs.Source.Relevant
import TagMenu.Proofs.Source.Runs

namespace TagMenu.Command

open Disk (Volume)
open Machine (Act Quiet asks_forM asks_return settingsFile?)

variable {host : Host Act} {names : Unicode.NameTable} {machine : Machine} {settings : Settings} {file : Option Path}
  {path : Path} {tagger : Tagger} {pattern : String}

/-- The paths that a tagger prints about a file, one on a line, and the machine after that. There are none if there is
    no tagger or no file, or if the tagger cannot be started. -/
def printed (host : Host Act) (tagger : Option Tagger) (file : Option Path) (machine : Machine) :
    List Path × Machine :=
  match tagger, file with
  | some tagger, some file =>
    match (host.run tagger.program (tagger.arguments ++ [file.text])).run machine with
    | (.ok output, after) => ((Text.nonBlankLines (Text.readLossy output.output)).map Path.mk, after)
    | (.error _, after) => ([], after)
  | _, _ => ([], machine)

def candidatesOn? (names : Unicode.NameTable) (volume : Volume) (path : Path) : Option (List Candidate) :=
  match volume.read path with
  | .ok content => (TagFile.readOctets names path content).toOption
  | .error _ => none

/-- The candidates of all files that can be looked at, each read once, that have a word that the pattern accepts:
    grouped by word, in the order in which words are first seen. There are none if a file cannot be loaded, or if the
    pattern is none. -/
def found? (names : Unicode.NameTable) (pattern : String) (volume : Volume) (paths : List Path) :
    Option (List Candidate) := do
  let files := Path.firstSpellings (fun path => (volume.modified path).isOk) paths
  let candidates := (← files.mapM (candidatesOn? names volume)).flatten
  let keyword ← (Keyword.compile pattern).toOption
  return ((Index.distinct candidates).filter keyword.accepts).flatMap (Index.group candidates)

/-- What a completion comes to. The tag files of the settings are seen from the directory of the file that these are
    in, those on the command line and the file that is edited from the working directory; a tagger may leave the
    machine in another one. -/
def directly (host : Host Act) (names : Unicode.NameTable) (config : Option Path) (tagFiles : List Path)
    (tagger : Option Tagger) (completion : Completion) (machine : Machine) : Outcome :=
  let here := machine.volume.workingDirectory
  let base := (settingsFile? config machine.volume).bind Path.parent?
  let (lines, after) := printed host tagger (completion.file.map (·.absolute here)) machine
  let there := after.volume.workingDirectory
  let paths := tagFiles.map (fun path => (base.elim path (·.join path)).absolute there) ++
    completion.tags.map (·.absolute here) ++ lines.map (·.absolute there)
  match found? names completion.pattern after.volume paths with
  | none => { status := 2, output := "" }
  | some candidates =>
    { status := if completion.failOnEmpty && candidates.isEmpty then 1 else 0
      output := match completion.format with
        | .text => String.join (candidates.map fun candidate =>
            candidate.word ++ "\t" ++ candidate.kind ++ "\t" ++ candidate.menu ++ "\n")
        | .json => Candidate.listToJson candidates ++ "\n" }

theorem tagFiles_run (quiet : Quiet host) (tagger : Tagger) (path : Path) (machine : Machine) :
    ((tagger.tagFiles host path).run machine).1 =
        ((((tagger.ask host path).run machine).1).toOption.elim [] (·.tagFiles)) ∧
      ((tagger.tagFiles host path).run machine).2.volume = ((tagger.ask host path).run machine).2.volume := by
  rw [Tagger.tagFiles, Cache.run_bind]
  rcases (tagger.ask host path).run machine with ⟨failure | answer, after⟩
  · exact ((quiet.asks_note _).bind _ fun _ => (quiet.asks_note _).bind _ fun _ => asks_return []) after
  · refine ((asks_forM fun line => quiet.asks_note _).bind (fun _ _ => answer.tagFiles) fun _ => ?_) after
    cases answer.success with
    | true => exact asks_return _
    | false => exact (quiet.asks_note _).bind _ fun _ => asks_return _

theorem taggerFiles_run (quiet : Quiet host) (lookup : Lookup) (file : Option Path) (machine : Machine) :
    ∃ ready, ready.volume = machine.volume ∧
      ((lookup.taggerFiles host file).run machine).1 = (printed host lookup.tagger file ready).1 ∧
      ((lookup.taggerFiles host file).run machine).2.volume = (printed host lookup.tagger file ready).2.volume := by
  unfold Lookup.taggerFiles printed
  cases lookup.tagger with
  | none => exact ⟨machine, rfl, rfl, rfl⟩
  | some tagger =>
    cases file with
    | none => exact ⟨machine, rfl, ((quiet.asks_note _).bind _ fun _ => asks_return []) machine⟩
    | some path =>
      obtain ⟨paths, kept⟩ := tagFiles_run quiet tagger path machine
      rw [Tagger.run_ask] at paths kept
      refine ⟨_, quiet.notes (.report .debug ("Running tagger " ++ tagger.program ++ " for " ++ path.text)) machine, ?_⟩
      simp only [paths, kept, Host.report]
      rcases (host.run tagger.program (tagger.arguments ++ [path.text])).run _ with ⟨failure | output, after⟩ <;>
        exact ⟨rfl, rfl⟩

theorem find_run (quiet : Quiet host) (settings : Settings) (file : Option Path) (machine : Machine) :
    ∃ ready, ready.volume = machine.volume ∧
      let told := printed host settings.tagger file ready
      (((Lookup.ofSettings settings).find host file).run machine).1 =
        (settings.resolved ++ told.1).map (·.absolute told.2.volume.workingDirectory) ∧
      (((Lookup.ofSettings settings).find host file).run machine).2.volume = told.2.volume := by
  obtain ⟨ready, same, paths, kept⟩ := taggerFiles_run quiet (.ofSettings settings) file machine
  refine ⟨ready, same, ?_⟩
  have asking : ∀ machine : Machine,
      host.workingDirectory.run machine = (machine.volume.workingDirectory, machine) :=
    quiet.run_ask (·.workingDirectory)
  rw [Lookup.find, Cache.run_bind, Cache.run_bind, asking, paths, kept]
  refine ⟨?_, kept⟩
  show (settings.resolved ++ [] ++ _).map _ = _
  rw [List.append_nil]
  rfl

theorem toOption_tags (quiet : Quiet host) (names : Unicode.NameTable) (machine : Machine) (path : Path) :
    (host.tags names machine path).toOption = candidatesOn? names machine.volume path := by
  have reading : host.content machine path = machine.volume.read path :=
    congrArg Prod.fst (quiet.run_ask (·.read path) machine)
  rw [Host.tags, reading, candidatesOn?]
  cases machine.volume.read path <;> rfl

theorem found?_eq (quiet : Quiet host) (policy : Eviction) (paths : List Path) (machine : Machine) :
    found? names pattern machine.volume paths =
      match ((Cache.refresh (host.supply names) paths { policy }).run machine).1 with
      | (.ok _, after) => (Keyword.compile pattern).toOption.map after.snapshot.gather
      | (.error _, _) => none := by
  have cold := Cache.candidates_cold (quiet.fixed : (host.supply names).Fixed machine) policy paths
  have times : (host.supply names).time machine = machine.volume.modified := by
    funext path
    exact congrArg Prod.fst (quiet.run_ask (·.modified path) machine)
  have loads : Cache.loaded? (host.supply names) machine = candidatesOn? names machine.volume := by
    funext path
    rw [Cache.loaded?, Cache.tags_supply, toOption_tags quiet]
  rw [times, loads] at cold
  rcases run : ((Cache.refresh (host.supply names) paths { policy }).run machine).1 with ⟨error | report, after⟩
  · rw [run, Option.map_eq_none_iff] at cold
    rw [found?, cold]
    rfl
  · rw [run, Option.map_eq_some_iff] at cold
    obtain ⟨lists, loaded, all⟩ := cold
    rw [found?, loaded]
    cases Keyword.compile pattern with
    | error error => rfl
    | ok keyword =>
      show some _ = some _
      rw [Snapshot.gather, Index.matching, Index.words_ofCandidates, funext (Index.get_ofCandidates _), all]

theorem gather_cold (quiet : Quiet host) (settings : Settings) (request : Source.Request) (machine : Machine)
    {source : Source} {policy : Eviction} (new : source.cache = { policy }) :
    let told := ((Lookup.ofSettings settings).find host request.file).run machine
    ((source.gather (surroundings host names settings) request).run machine).1.1.toOption =
      found? names request.pattern told.2.volume told.1 := by
  intro told
  have empty : source.cache.isEmpty = true := by
    rw [new]
    exact Std.HashMap.isEmpty_empty
  let noted := ((Cache.debug (host.supply names) (toString told.1.length ++ " relevant tag files")).run told.2).2
  have same : noted.volume = told.2.volume := quiet.notes _ _
  obtain ⟨refreshed, run⟩ : ∃ refreshed,
      refreshed = ((Cache.refresh (host.supply names) told.1 { policy }).run noted).1 := ⟨_, rfl⟩
  have filled : ((source.fill (surroundings host names settings) request.file).run machine).1 =
      (refreshed.1.mapError CompletionError.cache, { source with cache := refreshed.2 }) := by
    rw [Source.fill_run, new, run]
    rfl
  rw [← same, found?_eq quiet policy, ← run, Source.gather, if_pos empty, Cache.run_bind, filled]
  rcases refreshed with ⟨error | report, after⟩
  · rfl
  · show (Source.query _ request.pattern).toOption = _
    rw [Source.query]
    cases Keyword.compile request.pattern <;> rfl

theorem gather_run (quiet : Quiet host) (settings : Settings) (request : Source.Request) (machine : Machine) :
    ((gather host names settings request).run machine).1.toOption =
      let started := ((host.note (.progress "initialised")).run machine).2
      let told := ((Lookup.ofSettings settings).find host request.file).run started
      found? names request.pattern told.2.volume told.1 := by
  let started := ((host.note (.progress "initialised")).run machine).2
  let source : Source := { settings, cache := { policy := settings.eviction } }
  have start : (Source.start (surroundings host names settings) settings).run machine = (source, started) := rfl
  have answer : ((source.gather (surroundings host names settings) request).run started).1.1.toOption = _ :=
    gather_cold quiet settings request started rfl
  refine Eq.trans ?_ answer
  rw [gather, Cache.run_bind, start, Cache.run_bind]
  rcases (source.gather (surroundings host names settings) request).run started with
    ⟨⟨error | candidates, after⟩, last⟩ <;> rfl

def withAll (completion : Completion) (directory : Path) (settings : Settings) : Settings :=
  { settings with tagFiles := settings.tagFiles ++ completion.tags.map (·.absolute directory) }

theorem mapM_absolute? {paths : List Path} (filled : ∀ path ∈ paths, path.isEmpty = false) (directory : Path) :
    paths.mapM (·.absolute? directory) = some (paths.map (·.absolute directory)) :=
  Cache.mapM_eq_map fun path inside => Path.absolute?_eq (filled path inside) directory

theorem withTags_eq {completion : Completion} (filled : ∀ path ∈ completion.tags, path.isEmpty = false)
    (directory : Path) (settings : Settings) :
    withTags directory completion.tags settings = .ok (withAll completion directory settings) := by
  rw [withTags, mapM_absolute? filled, withAll]

theorem absoluteFile_eq (filled : ∀ path ∈ file, path.isEmpty = false) (directory : Path) :
    absoluteFile directory file = .ok (file.map (·.absolute directory)) := by
  cases file with
  | none => rfl
  | some path =>
    rw [absoluteFile, Path.absolute?_eq (filled path rfl)]
    rfl

def outcomeOf (completion : Completion) (candidates : List Candidate) : Outcome where
  status := if completion.failOnEmpty && candidates.isEmpty then 1 else 0
  output := completion.format.render candidates

def started (host : Host Act) (settings : Settings) (machine : Machine) : Machine :=
  let shown := Text.Shown.texts (settings.tagFiles.map (·.text))
  let told := ((host.report .debug ("Tag files: " ++ shown.render)).run machine).2
  ((host.note (.progress "initialised")).run told).2

theorem volume_started (quiet : Quiet host) (settings : Settings) (machine : Machine) :
    (started host settings machine).volume = machine.volume :=
  (quiet.notes _ _).trans (quiet.notes _ _)

theorem complete_run (quiet : Quiet host) (completion : Completion)
    (tags : ∀ path ∈ completion.tags, path.isEmpty = false) (edited : ∀ file ∈ completion.file, file.isEmpty = false)
    (settings : Settings) (machine : Machine) :
    ((complete host names settings completion).run machine).1.toOption =
      let here := machine.volume.workingDirectory
      let all := withAll completion here settings
      let file := completion.file.map (·.absolute here)
      let told := ((Lookup.ofSettings all).find host file).run (started host all machine)
      (found? names completion.pattern told.2.volume told.1).map (outcomeOf completion) := by
  let here := machine.volume.workingDirectory
  let all := withAll completion here settings
  let shown := Text.Shown.texts (all.tagFiles.map (·.text))
  let ready := ((host.report .debug ("Tag files: " ++ shown.render)).run machine).2
  let request : Source.Request := ⟨completion.file.map (·.absolute here), completion.pattern⟩
  have asking : host.workingDirectory.run machine = (here, machine) := quiet.run_ask (·.workingDirectory) machine
  refine Eq.trans ?_ (congrArg (Option.map (outcomeOf completion)) (gather_run quiet all request ready))
  rw [complete, Cache.run_bind, asking]
  simp only [withTags_eq tags, absoluteFile_eq edited]
  rw [Cache.run_bind, Cache.run_bind]
  rcases (gather host names all request).run ready with ⟨failure | candidates, last⟩ <;> rfl

theorem complete_eviction (quiet : Quiet host) (completion : Completion)
    (tags : ∀ path ∈ completion.tags, path.isEmpty = false) (edited : ∀ file ∈ completion.file, file.isEmpty = false)
    (settings : Settings) (eviction : Eviction) (machine : Machine) :
    ((complete host names { settings with eviction } completion).run machine).1.toOption =
      ((complete host names settings completion).run machine).1.toOption := by
  rw [complete_run quiet completion tags edited, complete_run quiet completion tags edited]
  rfl

theorem toList_workingDirectory (volume : Volume) :
    volume.workingDirectory.text.toList = Path.rooted false (volume.here.map String.toList) := by
  rw [Volume.workingDirectory, Path.rooted, String.toList_append, String.toList_intercalate]
  rfl

theorem absolute_absolute (proper : ∀ name ∈ machine.volume.here, Path.IsStep name.toList)
    (filled : path.isEmpty = false) : (path.absolute machine.volume.workingDirectory).Usual := by
  refine Path.usual_absolute filled (toList_workingDirectory machine.volume) fun step member => ?_
  obtain ⟨name, listed, rfl⟩ := List.mem_map.mp member
  exact proper name listed

theorem resolved_eq (settings : Settings) :
    settings.resolved = settings.tagFiles.map fun path => settings.base.elim path (·.join path) := by
  refine List.map_congr_left fun path _ => ?_
  cases settings.base <;> rfl

theorem paths_eq (proper : ∀ name ∈ machine.volume.here, Path.IsStep name.toList) {completion : Completion}
    (filled : ∀ path ∈ completion.tags, path.isEmpty = false) (settings : Settings) (lines : List Path)
    (there : Path) :
    let here := machine.volume.workingDirectory
    ((withAll completion here settings).resolved ++ lines).map (·.absolute there) =
      settings.tagFiles.map (fun path => (settings.base.elim path (·.join path)).absolute there) ++
        completion.tags.map (·.absolute here) ++ lines.map (·.absolute there) := by
  intro here
  simp only [resolved_eq, withAll, List.map_append, List.map_map]
  congr 2
  refine List.map_congr_left fun path member => ?_
  have usual := absolute_absolute proper (filled path member)
  have stays : settings.base.elim (path.absolute here) (·.join (path.absolute here)) = path.absolute here := by
    cases settings.base with
    | none => rfl
    | some base => exact Path.join_of_isAbsolute usual.isAbsolute base
  exact (congrArg (·.absolute there) stays).trans (usual.absolute there)

theorem outcome_eq (completion : Completion) (answer : Option (List Candidate)) :
    (answer.map (outcomeOf completion)).getD { status := failureStatus } =
      match answer with
      | none => { status := 2, output := "" }
      | some candidates =>
        { status := if completion.failOnEmpty && candidates.isEmpty then 1 else 0
          output := match completion.format with
            | .text => String.join (candidates.map fun candidate =>
                candidate.word ++ "\t" ++ candidate.kind ++ "\t" ++ candidate.menu ++ "\n")
            | .json => Candidate.listToJson candidates ++ "\n" } := by
  cases answer with
  | none => rfl
  | some candidates =>
    rw [Option.map_some, Option.getD_some, outcomeOf]
    cases completion.format <;> rfl

theorem complete_eq (quiet : Quiet host) {completion : Completion}
    (tags : ∀ path ∈ completion.tags, path.isEmpty = false) (edited : ∀ file ∈ completion.file, file.isEmpty = false)
    (proper : ∀ name ∈ machine.volume.here, Path.IsStep name.toList) {config : Option Path}
    (base : settings.base = (settingsFile? config machine.volume).bind Path.parent?) :
    ∃ ready, ready.volume = machine.volume ∧
      ((complete host names settings completion).run machine).1.toOption.getD { status := failureStatus } =
        directly host names config settings.tagFiles settings.tagger completion ready := by
  let here := machine.volume.workingDirectory
  let all := withAll completion here settings
  obtain ⟨ready, same, paths, after⟩ :=
    find_run quiet all (completion.file.map (·.absolute here)) (started host all machine)
  rw [volume_started quiet] at same
  refine ⟨ready, same, ?_⟩
  rw [paths_eq proper tags] at paths
  rw [complete_run quiet completion tags edited, directly, same, ← base]
  simp only
  rw [paths, after]
  exact outcome_eq completion _

theorem run_complete {arguments : List String} {completion : Completion} {config : Option Path} {verbose : Bool}
    (asked : readArguments arguments = .invocation ⟨.complete completion, config, verbose⟩)
    {loaded : Except Settings.Error Settings × Machine}
    (loading : (loadSettings (host.logging verbose) config).run machine = loaded) (settled : loaded.1 = .ok settings) :
    ((run host names arguments).run machine).1 =
      ((complete (host.logging verbose) names settings completion).run loaded.2).1.toOption.getD
        { status := failureStatus } := by
  obtain ⟨_, ready⟩ := loaded
  cases settled
  rw [run, asked]
  simp only [perform]
  rw [Cache.run_bind, Cache.run_bind, loading]
  simp only
  rcases (complete (host.logging verbose) names settings completion).run ready with ⟨failure | outcome, last⟩ <;> rfl

/-- The program asked for a completion does what the definition says, on every machine, with all programs that a tagger
    may be. The notes that have been taken by then are not told, in case a program looks at them. The policy for idle
    files makes no difference: the definition does not know it, and nor does a completion with other settings. -/
theorem complete_directly (host : Host Act) (names : Unicode.NameTable) (arguments : List String) (machine : Machine)
    (completion : Completion) (config : Option Path) (verbose : Bool) (settings : Settings) (quiet : Quiet host)
    (asked : readArguments arguments = .invocation ⟨.complete completion, config, verbose⟩)
    (loaded : ((loadSettings host config).run machine).1 = .ok settings)
    (proper : ∀ name ∈ machine.volume.here, Path.IsStep name.toList) :
    (∃ notes, ((run host names arguments).run machine).1 =
      directly host names config settings.tagFiles settings.tagger completion
        { machine with reversedNotes := notes }) ∧
    ∀ eviction later,
      ((complete (host.logging verbose) names { settings with eviction } completion).run later).1.toOption =
        ((complete (host.logging verbose) names settings completion).run later).1.toOption := by
  obtain ⟨tags, edited⟩ := filled_of_readArguments asked
  have quietly := quiet.logging verbose
  refine ⟨?_, fun eviction later => complete_eviction quietly completion tags edited settings eviction later⟩
  obtain ⟨answer, kept⟩ := quietly.asks_loadSettings config machine
  obtain ⟨known, -⟩ := quiet.asks_loadSettings config machine
  rw [loaded] at known
  have base := Machine.base_of_settingsIn known.symm
  rw [← kept] at base proper
  obtain ⟨ready, same, outcome⟩ := complete_eq quietly tags edited proper base
  refine ⟨ready.reversedNotes, ?_⟩
  have whole : { machine with reversedNotes := ready.reversedNotes } = ready := by rw [← same.trans kept]
  rw [run_complete asked rfl (answer.trans known.symm), outcome, whole]
  rfl

theorem complete_directly_in_directory :
    let content := "\x7b\"tagFiles\": [\"t\"]\x7d".toUTF8
    let tags := "f\tm\ts\n".toUTF8
    let root : Disk.Node := .directory [("d", .directory [("c", .file content ⟨0, 0⟩), ("t", .file tags ⟨0, 0⟩)]
      ⟨0, 0⟩)] ⟨0, 0⟩
    let machine : Machine := { volume := { root, here := ["d"], now := ⟨0, 0⟩ } }
    let arguments := ["complete", "f", "-c", "c", "-t", ".//t", "--fail-on-empty"]
    let completion : Completion := { pattern := "f", tags := [⟨".//t"⟩], failOnEmpty := true }
    let settings : Settings := { tagFiles := [⟨"t"⟩], base := some ⟨""⟩ }
    let names : Unicode.NameTable := fun _ => none
    Quiet Machine.host ∧ readArguments arguments = .invocation ⟨.complete completion, some ⟨"c"⟩, false⟩ ∧
      ((loadSettings Machine.host (some ⟨"c"⟩)).run machine).1 = .ok settings ∧
      (∀ name ∈ machine.volume.here, Path.IsStep name.toList) ∧
      ((run Machine.host names arguments).run machine).1 = { status := 0, output := "f\t\t.\n" } := by
  intro content tags root machine arguments completion settings names
  have asked : readArguments arguments = .invocation ⟨.complete completion, some ⟨"c"⟩, false⟩ := by decide +kernel
  have short : ∀ name ∈ ["c", "d", "t"], ¬ Disk.nameLimit < name.utf8ByteSize := by decide
  simp only [List.forall_mem_cons] at short
  have config : machine.volume.find true ⟨"c"⟩ = .ok (["d", "c"], .file content ⟨0, 0⟩) := by
    have steps : Disk.itinerary ["d"] "c" = (["d"], [.enter "c"]) := by decide
    refine Disk.find_of_walk (by simp) (by decide) (by decide) ?_
    simp [machine, steps, Disk.walk, root, short]
  have file : machine.volume.find true ⟨"/d/t"⟩ = .ok (["d", "t"], .file tags ⟨0, 0⟩) := by
    have steps : Disk.itinerary ["d"] "/d/t" = ([], [.enter "d", .enter "t"]) := by decide
    refine Disk.find_of_walk (by simp) (by decide) (by decide) ?_
    simp [machine, steps, Disk.walk, root, short]
  have loaded : ((loadSettings Machine.host (some ⟨"c"⟩)).run machine).1 = .ok settings := by
    have read : machine.volume.read ⟨"c"⟩ = .ok content := by rw [Volume.read, config]; rfl
    have parsed : (Settings.ofContent ⟨"c"⟩ content).toOption = some settings := by decide +kernel
    refine (Machine.quiet_host.asks_loadSettings (some ⟨"c"⟩) machine).1.trans ?_
    simp only [settingsFile?, Option.some_or, Machine.settingsIn, read]
    cases result : Settings.ofContent ⟨"c"⟩ content with
    | error error =>
      rw [result] at parsed
      cases parsed
    | ok value =>
      rw [result] at parsed
      exact congrArg Except.ok (Option.some.inj parsed)
  have found : found? names "f" machine.volume [⟨"/d/t"⟩, ⟨"/d/t"⟩] = some [.ofParts "f" "" "" "" ""] := by
    have time : machine.volume.modified ⟨"/d/t"⟩ = .ok ⟨0, 0⟩ := by rw [Volume.modified, file]; rfl
    have read : machine.volume.read ⟨"/d/t"⟩ = .ok tags := by rw [Volume.read, file]; rfl
    have files : Path.firstSpellings (fun path => (machine.volume.modified path).isOk) [⟨"/d/t"⟩, ⟨"/d/t"⟩] =
        [⟨"/d/t"⟩] := by
      simp [Path.firstSpellings, time, Path.same]
    have loads : candidatesOn? names machine.volume ⟨"/d/t"⟩ = some [.ofParts "f" "" "" "" ""] := by
      rw [candidatesOn?, read]
      decide +kernel
    rw [found?, files, List.mapM_cons, loads]
    decide +kernel
  have proper : ∀ name ∈ machine.volume.here, Path.IsStep name.toList :=
    List.forall_mem_singleton.mpr ⟨by decide, by decide, by decide⟩
  obtain ⟨⟨notes, outcome⟩, -⟩ := complete_directly Machine.host names arguments machine completion (some ⟨"c"⟩) false
    settings Machine.quiet_host asked loaded proper
  have base : (settingsFile? (some ⟨"c"⟩) machine.volume).bind Path.parent? = some ⟨""⟩ := by decide +kernel
  have here : machine.volume.workingDirectory = ⟨"/d"⟩ := by decide +kernel
  have listed : ((⟨""⟩ : Path).join ⟨"t"⟩).absolute ⟨"/d"⟩ = ⟨"/d/t"⟩ ∧
      (⟨".//t"⟩ : Path).absolute ⟨"/d"⟩ = ⟨"/d/t"⟩ := by decide +kernel
  refine ⟨Machine.quiet_host, asked, loaded, proper, ?_⟩
  rw [outcome, directly]
  simp only [base, here, printed, settings, completion, listed, Option.elim, List.map_cons, List.map_nil,
    List.append_nil, List.cons_append, List.nil_append, found]
  decide +kernel

end TagMenu.Command
