import Mathlib
import TagMenu.Proofs.Command.Columns
import TagMenu.Proofs.Disk.Absolute
import TagMenu.Proofs.Pattern.Enclosed

namespace TagMenu

open Disk (Node Timestamp Volume pathLimit)

theorem Keyword.compile_empty : ∃ keyword, Keyword.compile "" = .ok keyword ∧ ∀ word, keyword.accepts word = true := by
  let expr : Pattern.Expr := .seq .empty (.look .textEnd)
  have parsed : Pattern.parse (anchored "") = .ok expr :=
    Pattern.parse_of_run (Pattern.Reading.run_step rfl rfl <| Pattern.Reading.run_step rfl rfl <|
      Pattern.Reading.run_step rfl rfl <| Pattern.Reading.run_nil rfl) rfl
  have small : ¬ expr.cost > Pattern.costLimit := by decide
  have compiled : Keyword.compile "" = .ok ⟨"", expr⟩ := by
    rw [Keyword.compile, Pattern.compile, parsed, Pattern.bind_ok]
    dsimp only
    rw [if_neg small]
    rfl
  refine ⟨⟨"", expr⟩, compiled, fun word => ?_⟩
  rw [accepts, Pattern.Expr.occurs_iff (Pattern.parse_proper parsed)]
  have ends : expr.Matches word.toList word.toList.length word.toList.length :=
    (Pattern.matches_textEnd le_rfl).mpr ⟨rfl, rfl⟩
  exact ⟨_, _, le_rfl, ends⟩

theorem Path.firstSpellings_eq_self {found : Path → Bool} {paths : List Path} (all : ∀ path ∈ paths, found path = true)
    (distinct : (keys paths).Nodup) : firstSpellings found paths = paths := by
  induction paths using List.reverseRecOn with
  | nil => rfl
  | append_singleton paths path ih =>
    obtain ⟨before, last⟩ := List.forall_mem_append.mp all
    rw [keys, List.map_append, List.map_singleton, List.nodup_append] at distinct
    obtain ⟨once, -, apart⟩ := distinct
    have fresh : path.key ∉ keys paths := fun known => apart _ known _ (List.mem_singleton_self _) rfl
    rw [firstSpellings_concat, ih before once, if_pos ⟨last path (List.mem_singleton_self path), fresh⟩]

namespace Command

open Machine (Act Answers Quiet answers_mapM answers_return settingsFile?)

variable {host : Host Act} {names : Unicode.NameTable} {machine : Machine} {volume : Volume} {path : Path}
  {files : List Path} {entries : List (FileName × Node)} {modified : Timestamp} {arguments : List String}
  {config : Option Path} {verbose : Bool} {candidates : List Candidate}

def count? (names : Unicode.NameTable) (volume : Volume) (path : Path) : Option Nat :=
  (candidatesOn? names volume path).map List.length

def countLine (path : Path) (tags : Nat) : String := path.text ++ ": " ++ toString tags ++ " tags\n"

theorem answers_checkFile (quiet : Quiet host) (names : Unicode.NameTable) (volume : Volume) (path : Path) :
    Answers volume (checkFile host names path) ((count? names volume path).map (countLine path)) := by
  rintro machine rfl
  have kept : ((host.loadTags names path).run machine).2.volume = machine.volume := quiet.volume_loadTags
  rw [count?, ← toOption_tags quiet, ← Cache.loadTags_run, checkFile, Cache.run_bind]
  generalize (host.loadTags names path).run machine = loaded at kept ⊢
  rcases loaded with ⟨error | candidates, after⟩
  · exact ⟨rfl, (quiet.notes _ after).trans kept⟩
  · exact ⟨rfl, kept⟩

theorem answers_check (quiet : Quiet host) (names : Unicode.NameTable) (volume : Volume) (files : List Path) :
    Answers volume (check host names files) {
      status := if files.all fun path => (count? names volume path).isSome then 0 else 1
      output := String.join (files.filterMap fun path => (count? names volume path).map (countLine path)) } := by
  let line (path : Path) : Option String := (count? names volume path).map (countLine path)
  have lines : Answers volume (files.mapM (checkFile host names)) (files.map line) :=
    answers_mapM line fun path _ => answers_checkFile quiet names volume path
  have status : files.all (fun path => (count? names volume path).isSome) = (files.map line).all (·.isSome) := by
    simp [line, Function.comp_def]
  have output : files.filterMap line = (files.map line).filterMap id := by
    rw [List.filterMap_map]
    rfl
  rw [status, output]
  exact lines.bind (answers_return volume _)

theorem run_check (quiet : Quiet host) (names : Unicode.NameTable) (machine : Machine)
    (asked : readArguments arguments = .invocation ⟨.check files, config, verbose⟩) :
    ((run host names arguments).run machine).1 = {
      status := if files.all fun path => (count? names machine.volume path).isSome then 0 else 1
      output := String.join
        (files.filterMap fun path => (count? names machine.volume path).map (countLine path)) } := by
  rw [run, asked]
  simp only [perform]
  exact (answers_check (quiet.logging verbose) names machine.volume files machine rfl).1

theorem run_complete_plain (quiet : Quiet host) (names : Unicode.NameTable) {completion : Completion}
    (plain : settingsFile? none machine.volume = none) (proper : ∀ name ∈ machine.volume.here, Path.IsStep name.toList)
    (asked : readArguments arguments = .invocation ⟨.complete completion, none, verbose⟩) :
    ((run host names arguments).run machine).1 =
      ((found? names completion.pattern machine.volume
        (completion.tags.map (·.absolute machine.volume.workingDirectory))).map (outcomeOf completion)).getD
          { status := failureStatus } := by
  obtain ⟨tags, edited⟩ := filled_of_readArguments asked
  have quietly := quiet.logging verbose
  obtain ⟨answer, kept⟩ := quietly.asks_loadSettings none machine
  have settled : ((loadSettings (host.logging verbose) none).run machine).1 = .ok {} := by
    rw [answer]
    simp only [plain]
    rfl
  generalize loading : (loadSettings (host.logging verbose) none).run machine = loaded at kept settled
  rw [← kept] at plain proper
  have base : ({} : Settings).base = (settingsFile? none loaded.2.volume).bind Path.parent? := by
    rw [plain]
    rfl
  obtain ⟨ready, same, outcome⟩ := complete_eq quietly tags edited proper base
  have silent (file : Option Path) : printed (host.logging verbose) none file ready = ([], ready) := rfl
  rw [run_complete asked loading settled, outcome, directly, outcome_eq]
  simp only [silent, same, kept, List.map_nil, List.nil_append, List.append_nil]

theorem found?_all (all : ∀ path ∈ files, (volume.modified path).isOk = true) (distinct : (Path.keys files).Nodup) :
    found? names "" volume files = (files.mapM (candidatesOn? names volume)).map fun lists =>
      Index.grouped lists.flatten := by
  obtain ⟨keyword, compiled, accepts⟩ := Keyword.compile_empty
  have whole : ∀ words : List String, words.filter keyword.accepts = words := fun words =>
    List.filter_eq_self.mpr fun word _ => accepts word
  rw [found?, Path.firstSpellings_eq_self all distinct, compiled]
  cases files.mapM (candidatesOn? names volume) with
  | none => rfl
  | some lists =>
    show some _ = some _
    rw [whole]
    rfl

theorem count_feeds (formed : ∀ candidate ∈ candidates, candidate.WellFormed names) :
    (Format.text.render candidates).toList.count '\n' = candidates.length := by
  have line : ∀ candidate ∈ candidates, (lineOf candidate ++ "\n").toList.count '\n' = 1 := by
    intro candidate inside
    have free := List.count_eq_zero.mpr (not_feed_lineOf (formed candidate inside))
    rw [String.toList_append, List.count_append, free]
    rfl
  rw [Format.render, String.toList_join, List.count_flatMap, List.map_map]
  exact (congrArg List.sum (List.map_congr_left line)).trans (by simp)

theorem find_absolute (there : volume.root.get? volume.here = some (.directory entries modified))
    (proper : ∀ name ∈ volume.here, IsFileName name) (found : (volume.modified path).isOk = true)
    (short : (path.absolute volume.workingDirectory).text.utf8ByteSize ≤ pathLimit) :
    volume.find true (path.absolute volume.workingDirectory) = volume.find true path := by
  cases leads : volume.find true path with
  | error failure =>
    rw [Volume.modified, leads] at found
    cases found
  | ok known => exact Disk.find_absolute there proper leads short

theorem toOption_readOctets (names : Unicode.NameTable) (left right : Path) (content : ByteArray) :
    (TagFile.readOctets names left content).toOption = (TagFile.readOctets names right content).toOption := by
  cases first : TagFile.readOctets names left content with
  | ok candidates => rw [TagFile.readOctets_path first]
  | error error =>
    cases second : TagFile.readOctets names right content with
    | ok candidates =>
      rw [TagFile.readOctets_path second] at first
      cases first
    | error other => rfl

theorem candidatesOn?_congr {left right : Path} (same : volume.find true left = volume.find true right) :
    candidatesOn? names volume left = candidatesOn? names volume right := by
  have read : volume.read left = volume.read right := by rw [Volume.read, Volume.read, same]
  rw [candidatesOn?, candidatesOn?, read]
  cases volume.read right with
  | ok content => exact toOption_readOctets names left right content
  | error failure => rfl

theorem run_complete_all (quiet : Quiet host) (names : Unicode.NameTable)
    (there : machine.volume.root.get? machine.volume.here = some (.directory entries modified))
    (proper : ∀ name ∈ machine.volume.here, IsFileName name) (plain : settingsFile? none machine.volume = none)
    (asked : readArguments arguments = .invocation ⟨.complete { pattern := "", tags := files }, none, verbose⟩)
    (found : ∀ path ∈ files, (machine.volume.modified path).isOk = true)
    (short : ∀ path ∈ files, (path.absolute machine.volume.workingDirectory).text.utf8ByteSize ≤ pathLimit)
    (distinct : (files.map fun path => (path.absolute machine.volume.workingDirectory).key).Nodup) :
    ((run host names arguments).run machine).1 =
      ((files.mapM (candidatesOn? names machine.volume)).map fun lists =>
        { status := 0, output := Format.text.render (Index.grouped lists.flatten) }).getD
          { status := 2, output := "" } := by
  let volume := machine.volume
  have steps : ∀ name ∈ volume.here, Path.IsStep name.toList := fun name inside =>
    Path.isStep_of_name (proper name inside)
  have same : ∀ path ∈ files, volume.find true (path.absolute volume.workingDirectory) = volume.find true path :=
    fun path inside => find_absolute there proper (found path inside) (short path inside)
  have present : ∀ path ∈ files.map (·.absolute volume.workingDirectory), (volume.modified path).isOk = true := by
    refine List.forall_mem_map.mpr fun path inside => ?_
    rw [Volume.modified, same path inside]
    exact found path inside
  have apart : (Path.keys (files.map (·.absolute volume.workingDirectory))).Nodup := by rwa [Path.keys, List.map_map]
  have loads : (files.map (·.absolute volume.workingDirectory)).mapM (candidatesOn? names volume) =
      files.mapM (candidatesOn? names volume) := by
    rw [List.mapM_map]
    exact Cache.mapM_congr fun path inside => candidatesOn?_congr (same path inside)
  rw [run_complete_plain quiet names plain steps asked, found?_all present apart, loads]
  cases files.mapM (candidatesOn? names volume) <;> rfl

theorem settingsFile?_eq_none (there : volume.root.get? volume.here = some (.directory entries modified))
    (absent : ∀ path ∈ Settings.fileNames, entries.lookup (.ofText path.text) = none) :
    settingsFile? none volume = none := by
  have dotted : Settings.fileNames.map (⟨"."⟩ : Path).join =
      Settings.fileNames.map fun path => Path.ofNames [".", path.text] := by decide +kernel
  have proper : ∀ path ∈ Settings.fileNames, IsFileName path.text := by
    simp only [Settings.fileNames, Settings.fileName, List.forall_mem_cons]
    exact ⟨by constructor <;> decide, by constructor <;> decide, List.forall_mem_nil _⟩
  have short : ∀ path ∈ Settings.fileNames, (Path.ofNames [".", path.text]).text.utf8ByteSize ≤ pathLimit := by decide
  rw [settingsFile?, Option.none_or, dotted, List.find?_eq_none]
  refine List.forall_mem_map.mpr fun path inside => ?_
  have own := proper path inside
  have missing : volume.root.get? (volume.here ++ [path.text]) = none := by
    rw [Node.get?_of_directory there, absent path inside]
    rfl
  have nowhere : Disk.resolve volume.root volume.here true (Path.ofNames [".", path.text]) =
      .ok (.vacant (volume.here ++ [path.text]) false) := by
    rw [Path.resolve_dotNames (List.forall_mem_singleton.mpr own) (short path inside), List.map_singleton, Disk.walk,
      if_neg (Nat.not_lt.mpr own.short), missing]
    rfl
  simp [Volume.isFile, Volume.find, Disk.find, nowhere]

theorem wellFormed_of_candidatesOn? (loaded : candidatesOn? names volume path = some candidates) :
    ∀ candidate ∈ candidates, candidate.WellFormed names := by
  unfold candidatesOn? at loaded
  split at loaded
  case h_1 content _ =>
    cases read : TagFile.readOctets names path content with
    | error error =>
      rw [read] at loaded
      cases loaded
    | ok tags =>
      rw [read] at loaded
      cases loaded
      exact TagFile.wellFormed_of_read read
  case h_2 => cases loaded

theorem length_flatten_tags {tags : Path → List Candidate}
    (each : ∀ path ∈ files, candidatesOn? names volume path = some (tags path)) :
    (files.map tags).flatten.length = (files.map fun path => (count? names volume path).getD 0).sum := by
  rw [List.length_flatten, List.map_map]
  refine congrArg List.sum (List.map_congr_left fun path inside => ?_)
  have counted : count? names volume path = some (tags path).length :=
    congrArg (Option.map List.length) (each path inside)
  rw [counted]
  rfl

/-- Files are checked one by one, and completed together. The first failure ends a completion, but a check goes on.
    Both end well if no file fails, and then as many tags are completed as are counted. -/
theorem check_agrees_with_complete (host : Host Act) (names : Unicode.NameTable) (machine : Machine) (files : List Path)
    (checking completing : List String) (config : Option Path) (verbose verboseToo : Bool)
    (entries : List (FileName × Node)) (modified : Timestamp) (quiet : Quiet host)
    (there : machine.volume.root.get? machine.volume.here = some (.directory entries modified))
    (proper : ∀ name ∈ machine.volume.here, IsFileName name) (plain : settingsFile? none machine.volume = none)
    (askedCheck : readArguments checking = .invocation ⟨.check files, config, verbose⟩)
    (askedComplete : readArguments completing =
      .invocation ⟨.complete { pattern := "", tags := files }, none, verboseToo⟩)
    (found : ∀ path ∈ files, (machine.volume.modified path).isOk = true)
    (short : ∀ path ∈ files, (path.absolute machine.volume.workingDirectory).text.utf8ByteSize ≤ pathLimit)
    (distinct : (files.map fun path => (path.absolute machine.volume.workingDirectory).key).Nodup) :
    let count := count? names machine.volume
    let checked := ((run host names checking).run machine).1
    let completed := ((run host names completing).run machine).1
    checked.output = String.join (files.filterMap fun path => (count path).map (countLine path)) ∧
    (checked.status = 0 ↔ ∀ path ∈ files, (count path).isSome = true) ∧
    (checked.status = 0 ↔ completed.status = 0) ∧
    (checked.status ≠ 0 → checked.status = 1 ∧ completed = { status := 2, output := "" }) ∧
    (checked.status = 0 →
      completed.output.toList.count '\n' = (files.map fun path => (count path).getD 0).sum) := by
  intro count checked completed
  have checks : checked = _ := run_check quiet names machine askedCheck
  have completes : completed = _ :=
    run_complete_all quiet names there proper plain askedComplete found short distinct
  have output := congrArg Outcome.output checks
  have status := congrArg Outcome.status checks
  by_cases good : ∀ path ∈ files, (count path).isSome = true
  · let tags (path : Path) : List Candidate := (candidatesOn? names machine.volume path).getD []
    have each : ∀ path ∈ files, candidatesOn? names machine.volume path = some (tags path) := fun path inside => by
      obtain ⟨list, loaded⟩ : ∃ list, candidatesOn? names machine.volume path = some list := by
        simpa [count, count?, Option.isSome_iff_exists] using good path inside
      simp [tags, loaded]
    have formed : ∀ candidate ∈ Index.grouped (files.map tags).flatten, candidate.WellFormed names := by
      intro candidate inside
      obtain ⟨list, listed, inside⟩ := List.mem_flatten.mp ((Index.perm_grouped _).subset inside)
      obtain ⟨path, known, rfl⟩ := List.mem_map.mp listed
      exact wellFormed_of_candidatesOn? (each path known) candidate inside
    rw [Cache.mapM_eq_map each, Option.map_some, Option.getD_some] at completes
    -- Tags are grouped by their words, but none is lost, and each is on a line of its own.
    have total : completed.output.toList.count '\n' = (files.map fun path => (count path).getD 0).sum := by
      rw [completes, count_feeds formed, (Index.perm_grouped _).length_eq, length_flatten_tags each]
    have well : checked.status = 0 := status.trans (if_pos (List.all_eq_true.mpr good))
    have ended : completed.status = 0 := by rw [completes]
    exact ⟨output, iff_of_true well good, iff_of_true well ended, fun failed => absurd well failed, fun _ => total⟩
  · obtain ⟨path, inside, refused⟩ : ∃ path ∈ files, candidatesOn? names machine.volume path = none := by
      simpa [count, count?] using good
    rw [Cache.mapM_eq_none inside refused] at completes
    have failed : checked.status = 1 := status.trans (if_neg (mt List.all_eq_true.mp good))
    have ended : completed = { status := 2, output := "" } := completes
    have other : checked.status ≠ 0 := by simp [failed]
    exact ⟨output, iff_of_false other good, iff_of_false other (by simp [ended]), fun _ => ⟨failed, ended⟩,
      fun well => absurd well other⟩

/-- Two files with three tags and two words, one of them under a path that is not in its usual form. -/
theorem check_agrees_with_complete_of_two_files :
    let first := "f\tm\ts\ng\tm\ts\n".toUTF8
    let second := "f\tn\ts\n".toUTF8
    let entries : List (FileName × Node) := [("a", .file first ⟨0, 0⟩), ("b", .file second ⟨0, 0⟩)]
    let root : Node := .directory [("d", .directory entries ⟨0, 0⟩)] ⟨0, 0⟩
    let machine : Machine := { volume := { root, here := ["d"], now := ⟨0, 0⟩ } }
    let names : Unicode.NameTable := fun _ => none
    let files : List Path := [⟨"a"⟩, ⟨".//b"⟩]
    let checking := ["check", "a", ".//b"]
    let completing := ["complete", "", "-t", "a", "-t", ".//b"]
    let checked := ((run Machine.host names checking).run machine).1
    let completed := ((run Machine.host names completing).run machine).1
    settingsFile? none machine.volume = none ∧
      readArguments checking = .invocation ⟨.check files, none, false⟩ ∧
      readArguments completing = .invocation ⟨.complete { pattern := "", tags := files }, none, false⟩ ∧
      (∀ path ∈ files, (machine.volume.modified path).isOk = true) ∧
      checked = { status := 0, output := "a: 2 tags\n.//b: 1 tags\n" } ∧ completed.status = 0 ∧
      completed.output.toList.count '\n' = 3 := by
  intro first second entries root machine names files checking completing checked completed
  have there : machine.volume.root.get? machine.volume.here = some (.directory entries ⟨0, 0⟩) := rfl
  have proper : ∀ name ∈ machine.volume.here, IsFileName name :=
    List.forall_mem_singleton.mpr (by constructor <;> decide)
  have plain : settingsFile? none machine.volume = none := settingsFile?_eq_none there (by decide)
  have askedCheck : readArguments checking = .invocation ⟨.check files, none, false⟩ := by decide +kernel
  have askedComplete :
      readArguments completing = .invocation ⟨.complete { pattern := "", tags := files }, none, false⟩ := by
    decide +kernel
  have short : ∀ name ∈ ["a", "b", "d"], ¬ Disk.nameLimit < name.utf8ByteSize := by decide
  simp only [List.forall_mem_cons] at short
  have findFirst : machine.volume.find true ⟨"a"⟩ = .ok (["d", "a"], .file first ⟨0, 0⟩) := by
    have steps : Disk.itinerary ["d"] "a" = (["d"], [.enter "a"]) := by decide
    refine Disk.find_of_walk (by simp) (by decide) (by decide) ?_
    simp [machine, steps, Disk.walk, root, entries, short]
  have findSecond : machine.volume.find true ⟨".//b"⟩ = .ok (["d", "b"], .file second ⟨0, 0⟩) := by
    have steps : Disk.itinerary ["d"] ".//b" = (["d"], [.stay, .stay, .enter "b"]) := by decide
    refine Disk.find_of_walk (by simp) (by decide) (by decide) ?_
    simp [machine, steps, Disk.walk, root, entries, short]
  have found : ∀ path ∈ files, (machine.volume.modified path).isOk = true := by
    simp only [files, List.forall_mem_cons, Volume.modified, findFirst, findSecond]
    exact ⟨rfl, rfl, List.forall_mem_nil _⟩
  obtain ⟨output, status, alike, -, total⟩ := check_agrees_with_complete Machine.host names machine files checking
    completing none false false entries ⟨0, 0⟩ Machine.quiet_host there proper plain askedCheck askedComplete found
    (by decide +kernel) (by decide +kernel)
  have countFirst : count? names machine.volume ⟨"a"⟩ = some 2 := by
    rw [count?, candidatesOn?, Volume.read, findFirst]
    decide +kernel
  have countSecond : count? names machine.volume ⟨".//b"⟩ = some 1 := by
    rw [count?, candidatesOn?, Volume.read, findSecond]
    decide +kernel
  have all : checked.status = 0 := by
    rw [status]
    simp only [files, List.forall_mem_cons, countFirst, countSecond]
    exact ⟨rfl, rfl, List.forall_mem_nil _⟩
  refine ⟨plain, askedCheck, askedComplete, found, ?_, alike.mp all, ?_⟩
  · have printed : checked.output = "a: 2 tags\n.//b: 1 tags\n" := by
      rw [output]
      simp only [files, List.filterMap_cons, List.filterMap_nil, countFirst, countSecond]
      decide +kernel
    rw [← printed, ← all]
  · rw [total all]
    simp [files, countFirst, countSecond]

/-- In a deep directory, the path of a file may be taken by the system, but not its absolute path: it is counted in a
    check, and passed over in a completion. -/
theorem check_disagrees_with_complete_deep_down :
    let here := List.replicate 20 (repeatedName 200)
    let name := repeatedName 80
    let root := Node.along (here ++ [name]) (.file "f\tm.jl\ts\n".toUTF8 ⟨0, 0⟩)
    let machine : Machine := { volume := { root, here, now := ⟨0, 0⟩ } }
    let names : Unicode.NameTable := fun _ => none
    let file : Path := ⟨name⟩
    let checking := ["check", name]
    let completing := ["complete", "", "-t", name]
    settingsFile? none machine.volume = none ∧
      readArguments checking = .invocation ⟨.check [file], none, false⟩ ∧
      readArguments completing = .invocation ⟨.complete { pattern := "", tags := [file] }, none, false⟩ ∧
      (machine.volume.modified file).isOk = true ∧
      ((run Machine.host names checking).run machine).1 = { status := 0, output := name ++ ": 1 tags\n" } ∧
      ((run Machine.host names completing).run machine).1 = { status := 0, output := "" } := by
  intro here name root machine names file checking completing
  let absolute := file.absolute machine.volume.workingDirectory
  have quiet := Machine.quiet_host
  have own : IsFileName name := isFileName_repeatedName (by decide) (by decide)
  have only : ∀ other ∈ [name], IsFileName other := List.forall_mem_singleton.mpr own
  have start : ∀ name ∈ here, IsFileName name := by
    intro name inside
    rw [(List.mem_replicate.mp inside).2]
    exact isFileName_repeatedName (by decide) (by decide)
  have steps : ∀ name ∈ here, Path.IsStep name.toList := fun name inside => Path.isStep_of_name (start name inside)
  have plain : settingsFile? none machine.volume = none := by
    refine settingsFile?_eq_none (Node.get?_along here [name] _) fun path inside => ?_
    have other : path.text ≠ name := by
      have sizes : ∀ path ∈ Settings.fileNames, path.text.utf8ByteSize ≠ 80 := by decide
      exact fun same => sizes path inside ((congrArg String.utf8ByteSize same).trans (utf8ByteSize_repeatedName 80))
    rw [FileName.lookup_ofText, if_neg other]
    rfl
  have askedCheck : readArguments checking = .invocation ⟨.check [file], none, false⟩ := by decide +kernel
  have askedComplete :
      readArguments completing = .invocation ⟨.complete { pattern := "", tags := [file] }, none, false⟩ := by
    decide +kernel
  have text : file = Path.ofNames [name] := by simp [file, Path.ofNames]
  have leads : machine.volume.find true file = .ok (here ++ [name], .file "f\tm.jl\ts\n".toUTF8 ⟨0, 0⟩) := by
    rw [text]
    have there := Node.get?_along (here ++ [name]) [] (.file "f\tm.jl\ts\n".toUTF8 ⟨0, 0⟩)
    rw [List.append_nil] at there
    exact Path.find_ofNames (by simp) only there (by simp) (by decide +kernel)
  have found : (machine.volume.modified file).isOk = true := by
    rw [Volume.modified, leads]
    rfl
  have counted : count? names machine.volume file = some 1 := by
    rw [count?, candidatesOn?, Volume.read, leads]
    decide +kernel
  have tooLong : pathLimit < absolute.text.utf8ByteSize := by
    have rooted : absolute = Path.rootedNames (here ++ [name]) :=
      (congrArg (·.absolute machine.volume.workingDirectory) text).trans (Path.absolute_ofNames (by simp) only start)
    rw [rooted, Path.size_rootedNames (by simp)]
    simp [here, name, utf8ByteSize_repeatedName]
    decide
  have missing : (machine.volume.modified absolute).isOk = false := by
    obtain ⟨failure, nothing⟩ := Disk.find_of_long tooLong
    rw [Volume.modified, Volume.find, nothing]
    rfl
  refine ⟨plain, askedCheck, askedComplete, found, ?_, ?_⟩
  · have line : countLine file 1 = name ++ ": 1 tags\n" := by
      rw [countLine, String.append_assoc, String.append_assoc]
      exact congrArg (name ++ ·) (by decide)
    rw [run_check quiet names machine askedCheck]
    simp [counted, line]
  · obtain ⟨keyword, compiled, -⟩ := Keyword.compile_empty
    have none : Path.firstSpellings (fun path => (machine.volume.modified path).isOk) [absolute] = [] := by
      simp [Path.firstSpellings, missing]
    have candidates : found? names "" machine.volume [absolute] = some [] := by
      rw [found?, none, compiled]
      rfl
    rw [run_complete_plain quiet names plain steps askedComplete, List.map_singleton]
    show ((found? names "" machine.volume [absolute]).map _).getD _ = _
    rw [candidates]
    rfl

end Command

end TagMenu
