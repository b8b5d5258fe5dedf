import Mathlib
import TagMenu.Proofs.Source.Entries
import TagMenu.Proofs.Source.Loads
import TagMenu.Proofs.Source.Taggers

namespace TagMenu.Source

variable {σ α : Type} {outside : Outside σ} {settings : Settings} {source : Source} {stage : Stage σ}
  {cache left : Cache} {entry : Entry} {path : Path} {count : Nat} {text : String} {texts more : List String}
  {loads : List (Path × Nat)} {calls new : List Call} {made : Bool}

def warning (settings : Settings) (name : String) : String :=
  "Warning: source '" ++ name ++ "' and '" ++ settings.name ++ "' probably should not mix."

def Answer.succeeded : Answer → Bool
  | .filled outcome => outcome.isOk
  | .found (.error (.cache _)) => false
  | .found _ | .nothing => true

/-- What a source tells the user of a refresh with these calls: how many tags each file has that has been loaded, also
    if the refresh fails after that, and that the cache is made, if it is. -/
def refreshTexts (calls : List Call) (made : Bool) : List String :=
  (Call.loads calls).map (fun load => loadedText load.1 load.2) ++ if made then ["Cache made"] else []

namespace Stage

/-- What the user is told of a refresh in this step. What is said while tag files are looked for comes first. -/
def toldOfRefresh (outside : Outside σ) (stage : Stage σ) (step : Step σ) : List String :=
  let calls := (stage.next outside step).calls.drop stage.calls.length
  Call.asides calls ++ refreshTexts calls (stage.take outside step).1.succeeded

def told (outside : Outside σ) (settings : Settings) (stage : Stage σ) : Step σ → List String
  | .change _ => []
  | .event event =>
    (settings.conflicting.filter (· ∈ event.sources)).map (warning settings) ++
      stage.toldOfRefresh outside (.event event)
  | .fill file => stage.toldOfRefresh outside (.fill file)
  | .ask request => if stage.source.cache.isEmpty then stage.toldOfRefresh outside (.ask request) else []

def toldThrough (outside : Outside σ) (settings : Settings) : Stage σ → List (Step σ) → List String
  | _, [] => []
  | stage, step :: rest =>
    told outside settings stage step ++ toldThrough outside settings (stage.next outside step) rest

end Stage

/-- The user has been told of the entry what is true, last of all that is told of its file. The same goes for all that
    the user has been told, unless something else than the source speaks of the file. -/
structure ToldOf (calls : List Call) (entry : Entry) : Prop where
  notes : Latest (Call.notes calls) entry.path entry.candidates.length
  log : (∀ text ∈ Call.asides calls, ¬ About entry.path text) →
    Latest (Call.log calls) entry.path entry.candidates.length

theorem Latest.append (latest : Latest texts path count) (others : ∀ text ∈ more, ¬ About path text) :
    Latest (texts ++ more) path count := by
  obtain ⟨before, after, rfl, last⟩ := latest
  exact ⟨before, after ++ more, by simp, List.forall_mem_append.mpr ⟨last, others⟩⟩

theorem latest_of_lastLoad (last : Cache.LastLoad loads entry) (texts : List String)
    (others : ∀ text ∈ more, ¬ About entry.path text) :
    Latest (texts ++ (loads.map (fun load => loadedText load.1 load.2) ++ more)) entry.path
      entry.candidates.length := by
  obtain ⟨before, after, rfl, apart⟩ := last
  refine ⟨texts ++ before.map (fun load => loadedText load.1 load.2),
    after.map (fun load => loadedText load.1 load.2) ++ more, by simp, List.forall_mem_append.mpr ⟨?_, others⟩⟩
  rw [List.forall_mem_map]
  intro load member about
  exact apart (about_loadedText.mp about ▸ List.mem_map_of_mem (List.mem_map_of_mem member))

structure Refreshes (earlier : Cache) (said : List String) (calls : List Call) (made : Bool) (after : Cache) :
    Prop where
  asides : Call.asides calls = said
  notes : Call.notes calls = refreshTexts calls made
  log : Call.log calls = Call.asides calls ++ refreshTexts calls made
  updated : earlier.Updated (Call.loads calls) after

theorem not_about_made (made : Bool) : ∀ text ∈ (if made then ["Cache made"] else []), ¬ About path text := by
  cases made with
  | true => exact List.forall_mem_singleton.mpr (not_about_of_end (by decide))
  | false => exact fun _ => nofun

theorem not_about_refreshTexts (spared : path.key ∉ Path.keys ((Call.loads calls).map (·.1))) (made : Bool) :
    ∀ text ∈ refreshTexts calls made, ¬ About path text := by
  refine List.forall_mem_append.mpr ⟨List.forall_mem_map.mpr fun load member about => ?_, not_about_made made⟩
  exact spared (about_loadedText.mp about ▸ List.mem_map_of_mem (List.mem_map_of_mem member))

theorem Refreshes.toldOf (refreshes : Refreshes cache texts new made left) (every : cache.Every (ToldOf calls)) :
    left.Every (ToldOf (calls ++ new)) := by
  intro path entry found
  rcases refreshes.updated path entry found with ⟨there, spared⟩ | ⟨same, last⟩
  -- What has been told of the entry stands, for nothing more is told of its file.
  · obtain ⟨same, told⟩ := every path entry there
    have others := not_about_refreshTexts (same ▸ spared) made
    refine ⟨same, ?_, fun asides => ?_⟩
    · rw [Call.notes_append, refreshes.notes]
      exact told.notes.append others
    · rw [Call.asides_append, List.forall_mem_append] at asides
      rw [Call.log_append, refreshes.log]
      exact (told.log asides.1).append (List.forall_mem_append.mpr ⟨asides.2, others⟩)
  -- The entry comes of the last load of its file, and this load is told of.
  · refine ⟨same, ?_, fun _ => ?_⟩
    · rw [Call.notes_append, refreshes.notes]
      exact latest_of_lastLoad last _ (not_about_made made)
    · rw [Call.log_append, refreshes.log, ← List.append_assoc]
      exact latest_of_lastLoad last _ (not_about_made made)

theorem tellLoaded_run (outside : Outside σ) (report : Cache.Report) (world : σ × List Call) :
    ((tellLoaded outside.watched report).run world).2.2 =
      world.2 ++ Call.tells (report.loaded.map fun load => loadedText load.1 load.2) := by
  rw [Call.tells, List.map_map]
  exact outside.forM_notes report.loaded (fun load => .progress (loadedText load.1 load.2)) world

theorem refreshes_of_worked {file : Option Path} {said : List String} {later : List Call}
    (worked : Call.Worked (calls ++ [.discovered file said] ++ [.noted (.report .debug text)]) loads later)
    (updated : cache.Updated loads left) (made : Bool) :
    ∃ new, later ++
        Call.tells (loads.map (fun load => loadedText load.1 load.2) ++ if made then ["Cache made"] else []) =
      calls ++ new ∧ Refreshes cache said new made left := by
  obtain ⟨work, rfl, notes, asides, rfl⟩ := worked
  have quiet : Call.log work = [] := List.eq_nil_iff_forall_not_mem.mpr fun text member => by
    rcases Call.mem_log member with aside | note
    · simp [asides] at aside
    · simp [notes] at note
  let start := [Call.discovered file said, .noted (.report .debug text)]
  have front : Call.notes start = [] ∧ Call.asides start = said ∧ Call.loads start = [] ∧ Call.log start = said := by
    simp [start, Call.notes, Call.own, Call.asides, Call.said, Call.loads, Call.load?, Call.log]
  obtain ⟨notesBefore, asidesBefore, loadsBefore, logBefore⟩ := front
  let new := start ++ (work ++ Call.tells (refreshTexts work made))
  have loaded : Call.loads new = Call.loads work := by simp [new, loadsBefore]
  have same : refreshTexts new made = refreshTexts work made := by rw [refreshTexts, loaded, refreshTexts]
  refine ⟨new, by simp [new, start, refreshTexts], ?_, ?_, ?_, ?_⟩
  · simp [new, asidesBefore, asides]
  · simp [same, new, notesBefore, notes]
  · simp [same, new, logBefore, quiet, asidesBefore, asides]
  · rwa [loaded]

theorem fill_watched (outside : Outside σ) (source : Source) (file : Option Path) (world : σ × List Call) :
    let run := (source.fill outside.watched file).run world
    run.1.2.settings = source.settings ∧ (∀ error, run.1.1 = .error error → ∃ cause, error = .cache cause) ∧
      ∃ new, run.2.2 = world.2 ++ new ∧
        Refreshes source.cache ((outside.discover file).run world.1).1.2 new run.1.1.isOk run.1.2.cache := by
  rcases found : (outside.discover file).run world.1 with ⟨⟨paths, said⟩, asked⟩
  let text := toString paths.length ++ " relevant tag files"
  let ready := (((outside.note (.report .debug text)).run asked).2,
    world.2 ++ [.discovered file said] ++ [.noted (.report .debug text)])
  have discovering : (outside.watched.discover file).run world =
      (paths, asked, world.2 ++ [.discovered file said]) := by
    simp only [Outside.watched, StateT.run_map, Outside.calling_run, found]
    rfl
  have noting : (Cache.debug outside.watched.toSupply text).run (asked, world.2 ++ [.discovered file said]) =
      ((), ready) := rfl
  obtain ⟨worked, updated⟩ := outside.worked_refresh paths source.cache ready
  simp only [fill, Cache.run_bind, discovering]
  rw [noting]
  rcases refreshed : (source.cache.refresh outside.watched.toSupply paths).run ready with
    ⟨⟨error | report, cache⟩, last⟩
  · rw [refreshed] at worked updated
    obtain ⟨new, told, refreshes⟩ := refreshes_of_worked worked updated false
    have after : last.2 ++ Call.tells (error.progress.loaded.map fun load => loadedText load.1 load.2) =
        world.2 ++ new := by simpa [Cache.loadedBy] using told
    refine ⟨rfl, fun failure same => ⟨error, by cases same; rfl⟩, new, ?_, refreshes⟩
    rw [← after, ← tellLoaded_run]
    rfl
  · rw [refreshed] at worked updated
    obtain ⟨new, told, refreshes⟩ := refreshes_of_worked worked updated true
    have after : last.2 ++ Call.tells (report.loaded.map fun load => loadedText load.1 load.2) ++
        Call.tells ["Cache made"] = world.2 ++ new := by simpa [Cache.loadedBy] using told
    refine ⟨rfl, fun failure same => (by cases same), new, ?_, refreshes⟩
    rw [← after, ← tellLoaded_run]
    rfl

theorem conflicts_eq (source : Source) (event : Event) :
    source.conflicts event = source.settings.conflicting.filter (· ∈ event.sources) := by
  rw [conflicts]
  exact List.filter_congr fun name _ => List.contains_eq_mem name event.sources

theorem handle_watched (outside : Outside σ) (source : Source) (event : Event) (world : σ × List Call) :
    ∃ next, (source.handle outside.watched event).run world = (source.fill outside.watched event.file).run
      (next, world.2 ++ Call.tells ((source.conflicts event).map (warning source.settings))) := by
  have told := outside.forM_notes (source.conflicts event) (fun name => .progress (warning source.settings name)) world
  refine ⟨(((source.conflicts event).forM fun name =>
    outside.watched.note (.progress (warning source.settings name))).run world).2.1, ?_⟩
  rw [handle_run, Call.tells, List.map_map]
  exact congrArg _ (Prod.ext rfl told)

/-- A source keeps to its settings, and what it has told is true. -/
structure Truthful (settings : Settings) (stage : Stage σ) : Prop where
  settings : stage.source.settings = settings
  entries : stage.source.cache.Every (ToldOf stage.calls)

theorem not_about_warning (settings : Settings) (name : String) (path : Path) :
    ¬ About path (warning settings name) := by
  have ending : "' probably should not mix.".toList.getLast? = some '.' := by decide
  refine not_about_of_end ?_
  unfold warning
  rw [String.toList_append, List.getLast?_append, ending]
  exact fun same => absurd (Option.some.inj same) (by decide)

theorem Truthful.refreshed (truthful : Truthful settings stage) {later : Stage σ} (warnings : List String)
    (plain : ∀ text ∈ warnings, ∀ path, ¬ About path text) (kept : later.source.settings = settings)
    (calls : later.calls = stage.calls ++ Call.tells warnings ++ new)
    (refreshes : Refreshes stage.source.cache texts new made later.source.cache) :
    Truthful settings later ∧
      let calls := later.calls.drop stage.calls.length
      Call.log later.calls = Call.log stage.calls ++ (warnings ++ (Call.asides calls ++ refreshTexts calls made)) := by
  have warned : stage.source.cache.Every (ToldOf (stage.calls ++ Call.tells warnings)) := by
    intro path entry found
    obtain ⟨same, told⟩ := truthful.entries path entry found
    refine ⟨same, ?_, fun asides => ?_⟩
    · rw [Call.notes_append, Call.notes_tells]
      exact told.notes.append fun text member => plain text member _
    · rw [Call.asides_append, Call.asides_tells, List.append_nil] at asides
      rw [Call.log_append, Call.log_tells]
      exact (told.log asides).append fun text member => plain text member _
  refine ⟨⟨kept, calls ▸ refreshes.toldOf warned⟩, ?_⟩
  rw [calls, List.append_assoc, List.drop_left]
  simp [refreshTexts, refreshes.log]

theorem Truthful.fill (truthful : Truthful settings stage) (outside : Outside σ) (file : Option Path) :
    Truthful settings (stage.next outside (.fill file)) ∧
      Call.log (stage.next outside (.fill file)).calls =
        Call.log stage.calls ++ stage.toldOfRefresh outside (.fill file) := by
  obtain ⟨kept, -, new, calls, refreshes⟩ := fill_watched outside stage.source file (stage.world, stage.calls)
  refine truthful.refreshed [] (fun _ => nofun) (kept.trans truthful.settings) ?_ refreshes
  rw [Call.tells, List.map_nil, List.append_nil]
  exact calls

theorem Truthful.handle (truthful : Truthful settings stage) (outside : Outside σ) (event : Event) :
    Truthful settings (stage.next outside (.event event)) ∧
      Call.log (stage.next outside (.event event)).calls =
        Call.log stage.calls ++ stage.told outside settings (.event event) := by
  obtain ⟨world, run⟩ := handle_watched outside stage.source event (stage.world, stage.calls)
  obtain ⟨kept, -, new, calls, refreshes⟩ := fill_watched outside stage.source event.file
    (world, stage.calls ++ Call.tells ((stage.source.conflicts event).map (warning stage.source.settings)))
  rw [← run] at kept calls refreshes
  obtain rfl := truthful.settings
  rw [Stage.told, ← conflicts_eq]
  exact truthful.refreshed _ (List.forall_mem_map.mpr fun name _ => not_about_warning _ name) kept calls refreshes

theorem succeeded_answer (snapshot : Snapshot) (pattern : String) :
    (Answer.found (snapshot.answer pattern)).succeeded = true := by
  rw [Snapshot.answer]
  cases Keyword.compile pattern <;> rfl

theorem toldOfRefresh_ask (request : Request) (empty : stage.source.cache.isEmpty = true) :
    stage.toldOfRefresh outside (.ask request) = stage.toldOfRefresh outside (.fill request.file) := by
  obtain ⟨outcome, filled, byFill, byAsk⟩ := Stage.take_ask_empty outside request empty
  obtain ⟨-, failure, -⟩ := fill_watched outside stage.source request.file (stage.world, stage.calls)
  have made : (Answer.found (outcome >>= fun _ => filled.source.cache.snapshot.answer request.pattern)).succeeded =
      (Answer.filled outcome).succeeded := by
    cases outcome with
    | error error =>
      have failed : (stage.take outside (.fill request.file)).1 = .filled (.error error) := congrArg Prod.fst byFill
      obtain ⟨cause, rfl⟩ := failure error (Answer.filled.inj failed)
      rfl
    | ok report => exact succeeded_answer _ _
  rw [Stage.toldOfRefresh, Stage.toldOfRefresh, Stage.next, Stage.next, byFill, byAsk, made]

theorem Truthful.next (truthful : Truthful settings stage) (outside : Outside σ) (step : Step σ) :
    Truthful settings (stage.next outside step) ∧
      Call.log (stage.next outside step).calls = Call.log stage.calls ++ stage.told outside settings step := by
  cases step with
  | change act => exact ⟨⟨truthful.settings, truthful.entries⟩, (List.append_nil _).symm⟩
  | event event => exact truthful.handle outside event
  | fill file => exact truthful.fill outside file
  | ask request =>
    rw [Stage.next_ask, Stage.told]
    split
    case isTrue empty =>
      rw [toldOfRefresh_ask request empty]
      exact truthful.fill outside request.file
    case isFalse => exact ⟨truthful, (List.append_nil _).symm⟩

theorem Truthful.after (truthful : Truthful settings stage) (outside : Outside σ) (steps : List (Step σ)) :
    Truthful settings (stage.after outside steps) ∧
      Call.log (stage.after outside steps).calls =
        Call.log stage.calls ++ stage.toldThrough outside settings steps := by
  induction steps generalizing stage with
  | nil => exact ⟨truthful, (List.append_nil _).symm⟩
  | cons step rest ih =>
    obtain ⟨kept, log⟩ := truthful.next outside step
    obtain ⟨keptToo, logToo⟩ := ih kept
    refine ⟨keptToo, logToo.trans ?_⟩
    rw [log, Stage.toldThrough, List.append_assoc]

theorem truthful_start (outside : Outside σ) (settings : Settings) (world : σ) :
    Truthful settings (.start outside settings world) ∧
      Call.log (Stage.start outside settings world).calls = ["initialised"] := by
  exact ⟨⟨rfl, Cache.Every.empty settings.eviction⟩, rfl⟩

section

variable {Q : String → Prop}

theorem asides_next (sayings : ∀ file world, ∀ text ∈ ((outside.discover file).run world).1.2, Q text)
    (kept : ∀ text ∈ Call.asides stage.calls, Q text) (step : Step σ) :
    ∀ text ∈ Call.asides (stage.next outside step).calls, Q text := by
  have filled : ∀ file world calls, (∀ text ∈ Call.asides calls, Q text) →
      ∀ text ∈ Call.asides ((stage.source.fill outside.watched file).run (world, calls)).2.2, Q text := by
    intro file world calls kept
    obtain ⟨-, -, new, after, refreshes⟩ := fill_watched outside stage.source file (world, calls)
    rw [after, Call.asides_append, refreshes.asides]
    exact List.forall_mem_append.mpr ⟨kept, sayings file world⟩
  cases step with
  | change act => exact kept
  | event event =>
    obtain ⟨world, run⟩ := handle_watched outside stage.source event (stage.world, stage.calls)
    show ∀ text ∈ Call.asides ((stage.source.handle outside.watched event).run (stage.world, stage.calls)).2.2, Q text
    rw [run]
    exact filled event.file world _ (by simpa using kept)
  | fill file => exact filled file stage.world stage.calls kept
  | ask request =>
    rw [Stage.next_ask]
    split
    · exact filled request.file stage.world stage.calls kept
    · exact kept

theorem asides_after (sayings : ∀ file world, ∀ text ∈ ((outside.discover file).run world).1.2, Q text)
    (settings : Settings) (world : σ) (steps : List (Step σ)) :
    ∀ text ∈ Call.asides ((Stage.start outside settings world).after outside steps).calls, Q text :=
  Stage.after_keeps (fun stage => ∀ text ∈ Call.asides stage.calls, Q text)
    (fun _ step _ kept => asides_next sayings kept step) (fun _ => nofun)

end

/-- What is said of a tagger is not taken for what is said of a file that is not relative. -/
theorem not_about_of_start (start : text.toList.head? = some 'T')
    (found : path.isEmpty = true ∨ path.isAbsolute = true) : ¬ About path text := by
  rintro ⟨other, count, same, rfl⟩
  rw [toList_loadedText] at start
  cases chars : other.text.toList with
  | nil =>
    rw [chars] at start
    exact absurd (Option.some.inj start) (by decide)
  | cons c rest =>
    rw [chars] at start
    -- So the text is about a relative path, the first step of which starts with this letter.
    obtain rfl : c = 'T' := Option.some.inj start
    obtain ⟨name, more, key⟩ := Path.key_of_first chars (by decide) (by decide)
    rw [key] at same
    rcases found with empty | absolute
    · obtain rfl : path = ⟨""⟩ := congrArg Path.mk (String.isEmpty_iff.mp empty)
      cases same
    · obtain ⟨_, -, components⟩ := Path.components_of_isAbsolute absolute
      rw [Path.key, components] at same
      cases same

theorem start_of_tagger (host : Host (StateM σ)) (lookup : Lookup) (file : Option Path) (world : σ) :
    ∀ text ∈ (Discovery.configured lookup).texts host file world, text.toList.head? = some 'T' := by
  obtain ⟨tagFiles, included, tagger⟩ := lookup
  cases tagger with
  | none => cases file <;> exact fun _ => nofun
  | some tagger =>
    cases file with
    | none => exact fun _ => nofun
    | some file =>
      show ∀ text ∈ tagger.texts ((tagger.ask host file).run world).1, text.toList.head? = some 'T'
      cases ((tagger.ask host file).run world).1 with
      | error failure => exact List.forall_mem_singleton.mpr (by simp)
      | ok answer => exact List.forall_mem_map.mpr fun line _ => by simp

/-- A source that looks for tag files on a host, from an absolute directory, is all that speaks of them. -/
theorem log_true_on_host (host : Host (StateM σ)) (names : Unicode.NameTable) (discovery : Discovery)
    (rooted : ∀ world, (host.workingDirectory.run world).1.isAbsolute = true) (settings : Settings) (world : σ)
    (steps : List (Step σ)) :
    let outside := Outside.ofHost host names discovery
    let stage := (Stage.start outside settings world).after outside steps
    ∀ path entry, stage.source.cache.get? path = some entry →
      Latest (Call.log stage.calls) entry.path entry.candidates.length := by
  intro outside stage path entry found
  obtain ⟨-, told⟩ := ((truthful_start outside settings world).1.after outside steps).1.entries path entry found
  refine told.log ?_
  have said : ∀ Q : String → Prop, (∀ file world, ∀ text ∈ discovery.texts host file world, Q text) →
      ∀ text ∈ Call.asides stage.calls, Q text := by
    intro Q sayings
    refine asides_after (fun file world => ?_) settings world steps
    rw [discover_ofHost]
    exact sayings file world
  cases discovery with
  | fixed paths => exact fun text member => (said (fun _ => False) (fun _ _ _ => nofun) text member).elim
  | sibling => exact fun text member => (said (fun _ => False) (fun _ _ _ => nofun) text member).elim
  | configured lookup =>
    have gives : outside.watched.Gives fun entry => entry.path.isEmpty = true ∨ entry.path.isAbsolute = true := by
      refine gives_watched fun file world path listed _ _ _ _ _ => ?_
      rw [discover_ofHost] at listed
      exact isAbsolute_of_found rooted lookup file world path listed
    obtain ⟨-, place⟩ := every_after gives settings world steps path entry found
    exact fun text member => not_about_of_start (said _ (start_of_tagger host lookup) text member) place

/-- The log of a source, from its start on. It says what is told in each step and nothing else. As to every file that is
    in the cache, the last thing that the source says of it is how many candidates it has there; and nobody else speaks
    of files, if the source looks for them on a host, where it tells what taggers say. -/
theorem log_is_true :
    (∀ (outside : Outside σ) (settings : Settings) (world : σ) (steps : List (Step σ)),
      let start := Stage.start outside settings world
      let stage := start.after outside steps
      Call.log stage.calls = "initialised" :: start.toldThrough outside settings steps ∧
      ∀ path entry, stage.source.cache.get? path = some entry →
        entry.path.key = path.key ∧ ToldOf stage.calls entry) ∧
    ∀ (host : Host (StateM σ)) (names : Unicode.NameTable) (discovery : Discovery),
      let outside := Outside.ofHost host names discovery
      (∀ file world, (outside.discover file).run world =
        let found := (discovery.find host file).run world
        ((found.1, discovery.texts host file world), found.2)) ∧
      ((∀ world, (host.workingDirectory.run world).1.isAbsolute = true) → ∀ settings world steps,
        let stage := (Stage.start outside settings world).after outside steps
        ∀ path entry, stage.source.cache.get? path = some entry →
          Latest (Call.log stage.calls) entry.path entry.candidates.length) := by
  refine ⟨fun outside settings world steps => ?_, fun host names discovery =>
    ⟨discover_ofHost host names discovery, log_true_on_host host names discovery⟩⟩
  obtain ⟨truthful, begun⟩ := truthful_start outside settings world
  obtain ⟨kept, log⟩ := truthful.after outside steps
  rw [begun] at log
  exact ⟨log, kept.entries⟩

theorem log_is_true_of_one_file :
    let host := Host.holding ⟨"/t"⟩ "f\tm\ts".toUTF8
    let outside := Outside.ofHost host (fun _ => none) (.fixed [⟨"/t"⟩])
    let stage := (Stage.start outside {} ()).after outside [.fill none]
    (∀ world, (host.workingDirectory.run world).1.isAbsolute = true) ∧
      ∃ path entry, stage.source.cache.get? path = some entry ∧ Latest (Call.log stage.calls) ⟨"/t"⟩ 1 := by
  intro host outside stage
  have rooted : ∀ world, (host.workingDirectory.run world).1.isAbsolute = true := fun _ =>
    (by decide +kernel : Path.isAbsolute ⟨"/"⟩ = true)
  have read : TagFile.readOctets (fun _ => none) ⟨"/t"⟩ "f\tm\ts".toUTF8 = .ok [.ofParts "f" "" "" "" ""] := by
    decide +kernel
  obtain ⟨-, entries⟩ : stage.source.cache.isEmpty = false ∧
      stage.source.cache.entries = [⟨⟨"/t"⟩, ⟨0, 0⟩, [.ofParts "f" "" "" "" ""]⟩] :=
    Stage.next_fill_first rfl rfl (Host.loadTags_holding read)
  obtain ⟨path, found⟩ := Cache.mem_entries (List.mem_of_mem_head? (congrArg List.head? entries))
  obtain ⟨-, told⟩ := log_is_true.2 host (fun _ => none) (.fixed [⟨"/t"⟩])
  have latest := told rooted {} () [.fill none] path _ found
  exact ⟨rooted, path, _, found, latest⟩

end TagMenu.Source
