import Mathlib
import TagMenu.Proofs.Command.Direct
import TagMenu.Proofs.Source.Entries

namespace TagMenu

def Candidate.columns (candidate : Candidate) : List (List Char) :=
  [candidate.word.toList, candidate.kind.toList, candidate.menu.toList]

namespace Command

section

variable {m : Type → Type} [Monad m]

def candidatesFor (host : Host m) (names : Unicode.NameTable) (settings : Settings) (completion : Completion) :
    m (Except Failure (List Candidate)) := do
  let directory ← host.workingDirectory
  match withTags directory completion.tags settings with
  | .error failure => return .error failure
  | .ok settings =>
    let shown := Text.Shown.texts (settings.tagFiles.map (·.text))
    host.report .debug ("Tag files: " ++ shown.render)
    match absoluteFile directory completion.file with
    | .error failure => return .error failure
    | .ok file => gather host names settings ⟨file, completion.pattern⟩

def candidatesAsked (host : Host m) (names : Unicode.NameTable) (config : Option Path) (completion : Completion) :
    m (Except Failure (List Candidate)) := do
  match ← loadSettings host config with
  | .error error => return .error (.completion (.settings error))
  | .ok settings => candidatesFor host names settings completion

end

variable {σ τ : Type} {host : Host (StateM σ)} {names : Unicode.NameTable} {candidates : List Candidate}
  {arguments : List String} {output : String} {world : σ} {completion : Completion} {config : Option Path}
  {verbose : Bool}

/-- The program is asked for a completion as text, which has these candidates, and prints this. -/
structure Printed (host : Host (StateM σ)) (names : Unicode.NameTable) (arguments : List String) (world : σ)
    (candidates : List Candidate) (output : String) : Prop where
  found : ∃ completion config verbose, readArguments arguments = .invocation ⟨.complete completion, config, verbose⟩ ∧
    completion.format = .text ∧
    ((candidatesAsked (host.logging verbose) names config completion).run world).1 = .ok candidates
  output : ((run host names arguments).run world).1.output = output

theorem toList_lineOf (candidate : Candidate) : (lineOf candidate).toList = ['\t'].intercalate candidate.columns := by
  simp [lineOf, Candidate.columns, List.intercalate, List.intersperse]

theorem toList_render (candidates : List Candidate) :
    (Format.text.render candidates).toList =
      ['\n'].intercalate (candidates.map (fun candidate => (lineOf candidate).toList) ++ [[]]) := by
  rw [← Text.flatMap_ended, List.flatMap_map, Format.render, String.toList_join, List.flatMap_def, List.map_map]
  congr 2
  funext candidate
  simp

theorem separate_columns {candidate : Candidate} (formed : candidate.WellFormed names) :
    ∀ column ∈ candidate.columns, '\t' ∉ column ∧ '\n' ∉ column := by
  have separate := formed.separate
  simp only [List.forall_mem_cons] at separate
  simp [Candidate.columns, separate]

theorem not_feed_lineOf {candidate : Candidate} (formed : candidate.WellFormed names) :
    '\n' ∉ (lineOf candidate).toList := by
  have separate := formed.separate
  simp only [List.forall_mem_cons] at separate
  simp [lineOf, separate]

theorem read_back (formed : ∀ candidate ∈ candidates, candidate.WellFormed names) :
    ((Format.text.render candidates).toList.splitOn '\n').map (·.splitOn '\t') =
      candidates.map Candidate.columns ++ [[[]]] := by
  have cut : ∀ candidate ∈ candidates, (lineOf candidate).toList.splitOn '\t' = candidate.columns :=
    fun candidate member => by
      have separate := separate_columns (formed candidate member)
      rw [toList_lineOf]
      exact List.splitOn_intercalate '\t' (fun column inside => (separate column inside).1) (List.cons_ne_nil _ _)
  have lines : ∀ candidate ∈ candidates, '\n' ∉ (lineOf candidate).toList := fun candidate member =>
    not_feed_lineOf (formed candidate member)
  have ended : ∀ line ∈ candidates.map (fun candidate => (lineOf candidate).toList) ++ [[]], '\n' ∉ line :=
    List.forall_mem_append.mpr ⟨List.forall_mem_map.mpr lines, List.forall_mem_singleton.mpr List.not_mem_nil⟩
  rw [toList_render, List.splitOn_intercalate '\n' ended (by simp), List.map_append, List.map_map]
  exact congrArg (· ++ [[[]]]) (List.map_congr_left cut)

theorem complete_candidates (host : Host (StateM σ)) (names : Unicode.NameTable) (settings : Settings)
    (completion : Completion) (world : σ) :
    (complete host names settings completion).run world =
      let found := (candidatesFor host names settings completion).run world
      (found.1.map (outcomeOf completion), found.2) := by
  rw [complete, candidatesFor, Cache.run_bind, Cache.run_bind]
  rcases host.workingDirectory.run world with ⟨directory, here⟩
  simp only
  cases withTags directory completion.tags settings with
  | error failure => rfl
  | ok settings =>
    simp only
    rw [Cache.run_bind, Cache.run_bind]
    cases absoluteFile directory completion.file with
    | error failure => rfl
    | ok file =>
      simp only
      rw [Cache.run_bind]
      rcases (gather host names settings ⟨file, completion.pattern⟩).run _ with ⟨failure | candidates, last⟩ <;> rfl

theorem run_candidates (asked : readArguments arguments = .invocation ⟨.complete completion, config, verbose⟩) :
    ((run host names arguments).run world).1 =
      match ((candidatesAsked (host.logging verbose) names config completion).run world).1 with
      | .error _ => { status := failureStatus }
      | .ok candidates => outcomeOf completion candidates := by
  rw [run, asked, candidatesAsked]
  simp only [perform]
  rw [Cache.run_bind, Cache.run_bind, Cache.run_bind]
  rcases (loadSettings (host.logging verbose) config).run world with ⟨error | settings, ready⟩
  · rfl
  · simp only [complete_candidates]
    rcases (candidatesFor (host.logging verbose) names settings completion).run ready with
      ⟨failure | candidates, last⟩ <;> rfl

theorem gather_source (host : Host (StateM σ)) (names : Unicode.NameTable) (settings : Settings)
    (request : Source.Request) (world : σ) :
    ((gather host names settings request).run world).1 =
      (((Source.mk settings { policy := settings.eviction }).gather (surroundings host names settings) request).run
        ((host.note (.progress "initialised")).run world).2).1.1.mapError .completion := by
  let source : Source := { settings, cache := { policy := settings.eviction } }
  let started := ((host.note (.progress "initialised")).run world).2
  have start : (Source.start (surroundings host names settings) settings).run world = (source, started) := rfl
  rw [gather, Cache.run_bind, start, Cache.run_bind]
  rcases (source.gather (surroundings host names settings) request).run started with
    ⟨⟨error | candidates, after⟩, last⟩ <;> rfl

theorem ok_of_mapError {α ε δ : Type} {result : Except ε α} {value : α} {f : ε → δ}
    (succeeded : result.mapError f = .ok value) : result = .ok value := by
  cases result with
  | error error => cases succeeded
  | ok answer =>
    cases succeeded
    rfl

theorem wellFormed_of_gather {settings : Settings} {request : Source.Request}
    (answered : ((gather host names settings request).run world).1 = .ok candidates) :
    ∀ candidate ∈ candidates, candidate.WellFormed names := by
  let needs := surroundings host names settings
  let started := ((host.note (.progress "initialised")).run world).2
  have gives : needs.Gives fun entry => ∀ candidate ∈ entry.candidates, candidate.WellFormed names :=
    fun _ _ _ _ _ _ _ _ loaded => Host.wellFormed_of_load loaded
  have same : (((Source.mk settings { policy := settings.eviction }).gather needs request).run started).1.1 =
      .ok candidates := ok_of_mapError ((gather_source host names settings request world).symm.trans answered)
  intro candidate member
  obtain ⟨path, entry, found, inside⟩ := Source.mem_gathered same member
  exact (Source.every_gather gives (.empty settings.eviction) request started path entry found).2 candidate inside

theorem wellFormed_of_asked (found : ((candidatesAsked host names config completion).run world).1 = .ok candidates) :
    ∀ candidate ∈ candidates, candidate.WellFormed names := by
  rw [candidatesAsked, Cache.run_bind] at found
  rcases loaded : (loadSettings host config).run world with ⟨error | settings, ready⟩ <;> simp only [loaded] at found
  · cases found
  · rw [candidatesFor, Cache.run_bind] at found
    rcases asking : host.workingDirectory.run ready with ⟨directory, here⟩
    simp only [asking] at found
    cases tagged : withTags directory completion.tags settings with
    | error failure =>
      simp only [tagged] at found
      cases found
    | ok settings =>
      simp only [tagged, Cache.run_bind] at found
      cases edited : absoluteFile directory completion.file with
      | error failure =>
        simp only [edited] at found
        cases found
      | ok file =>
        simp only [edited] at found
        exact wellFormed_of_gather found

theorem printed_of_run (asked : readArguments arguments = .invocation ⟨.complete completion, config, verbose⟩)
    (text : completion.format = .text)
    (succeeded : ((run host names arguments).run world).1.status ≠ failureStatus) :
    ∃ candidates, Printed host names arguments world candidates ((run host names arguments).run world).1.output := by
  rw [run_candidates asked] at succeeded
  cases found : ((candidatesAsked (host.logging verbose) names config completion).run world).1 with
  | error failure =>
    rw [found] at succeeded
    exact absurd rfl succeeded
  | ok candidates => exact ⟨candidates, ⟨completion, config, verbose, asked, text, found⟩, rfl⟩

theorem Printed.columns (printed : Printed host names arguments world candidates output) :
    (output.toList.splitOn '\n').map (·.splitOn '\t') = candidates.map Candidate.columns ++ [[[]]] := by
  obtain ⟨⟨completion, config, verbose, asked, text, found⟩, rfl⟩ := printed
  rw [run_candidates asked, found]
  show ((completion.format.render candidates).toList.splitOn '\n').map (·.splitOn '\t') = _
  rw [text]
  exact read_back (wellFormed_of_asked found)

/-- Text that is printed can be read back. Cut at line feeds and then at tabs, it has one row for each candidate, in
    order, with its word, its kind and what the menu shows, and nothing else; so what is printed alike is alike in
    these columns, whatever octets there are in the files. -/
theorem text_can_be_read_back (host : Host (StateM σ)) (names : Unicode.NameTable) (arguments : List String)
    (world : σ) :
    (∀ completion config verbose, readArguments arguments = .invocation ⟨.complete completion, config, verbose⟩ →
      completion.format = .text → ((run host names arguments).run world).1.status ≠ failureStatus →
      ∃ candidates, Printed host names arguments world candidates ((run host names arguments).run world).1.output) ∧
    ∀ candidates output, Printed host names arguments world candidates output →
      (output.toList.splitOn '\n').map (·.splitOn '\t') = candidates.map Candidate.columns ++ [[[]]] ∧
      ∀ (other : Host (StateM τ)) names' arguments' world' others,
        Printed other names' arguments' world' others output →
        others.map Candidate.columns = candidates.map Candidate.columns := by
  refine ⟨fun _ _ _ asked text succeeded => printed_of_run asked text succeeded, fun candidates output printed =>
    ⟨printed.columns, fun other names' arguments' world' others printedToo => ?_⟩⟩
  exact List.append_cancel_right (printedToo.columns.symm.trans printed.columns)

theorem text_can_be_read_back_of_one_line :
    let host := Host.holding ⟨"/t"⟩ "f\tm\ts".toUTF8
    let arguments := ["complete", "f", "-t", "/t"]
    Printed host (fun _ => none) arguments () [.ofParts "f" "" "" "" ""] "f\t\t.\n" ∧
      ("f\t\t.\n".toList.splitOn '\n').map (·.splitOn '\t') = [[['f'], [], ['.']], [[]]] := by
  intro host arguments
  let candidate := Candidate.ofParts "f" "" "" "" ""
  let completion : Completion := { pattern := "f", tags := [⟨"/t"⟩] }
  let settings : Settings := { tagFiles := [⟨"/t"⟩] }
  have asked : readArguments arguments = .invocation ⟨.complete completion, none, false⟩ := by decide +kernel
  have logging : host.logging false = host := by simp [host, Host.logging, Host.holding]
  have loaded : (loadSettings host none).run () = (.ok {}, ()) := by
    have nowhere : (Settings.discover host ⟨"."⟩).run () = (none, ()) := Prod.ext (by decide +kernel) rfl
    rw [loadSettings, Cache.run_bind, nowhere]
    rfl
  have tags : withTags ⟨"/"⟩ [⟨"/t"⟩] {} = .ok settings := by
    have absolute : [(⟨"/t"⟩ : Path)].mapM (·.absolute? ⟨"/"⟩) = some [⟨"/t"⟩] := by decide +kernel
    rw [withTags, absolute]
    rfl
  have looked : (Cache.look (host.supply fun _ => none) ⟨"/t"⟩ none).run () =
      (.loaded ⟨0, 0⟩ [candidate], ()) := by
    have time : (host.modified ⟨"/t"⟩).run () = (.ok ⟨0, 0⟩, ()) := rfl
    have read : TagFile.readOctets (fun _ => none) ⟨"/t"⟩ "f\tm\ts".toUTF8 = .ok [candidate] := by decide +kernel
    have loads : (host.loadTags (fun _ => none) ⟨"/t"⟩).run () = (.ok [candidate], ()) :=
      Prod.ext (Host.loadTags_holding read) rfl
    simp only [Cache.look, Cache.run_bind, Host.supply, time, loads, Option.any_none, Bool.false_eq_true, if_false]
    rfl
  have gathered : ((gather host (fun _ => none) settings { pattern := "f" }).run ()).1 = .ok [candidate] := by
    let needs := surroundings host (fun _ => none) settings
    have discovers : (needs.discover none).run () = ([⟨"/t"⟩], ()) := Prod.ext (by decide +kernel) rfl
    have answered : ((Source.gather needs { pattern := "f" } ⟨settings, {}⟩).run ()).1.1 = .ok [candidate] :=
      (Source.gather_first discovers looked).trans (Snapshot.answer_one rfl (by decide +kernel))
    rw [gather_source]
    exact congrArg (Except.mapError _) answered
  have found : ((candidatesAsked host (fun _ => none) none completion).run ()).1 = .ok [candidate] := by
    have directory : host.workingDirectory.run () = (⟨"/"⟩, ()) := rfl
    rw [candidatesAsked, Cache.run_bind, loaded]
    simp only
    rw [candidatesFor, Cache.run_bind, directory]
    simp only [completion, tags]
    exact gathered
  have printed : Printed host (fun _ => none) arguments () [candidate] "f\t\t.\n" := by
    refine ⟨⟨completion, none, false, asked, rfl, logging ▸ found⟩, ?_⟩
    rw [run_candidates asked, logging, found]
    decide +kernel
  obtain ⟨-, reads⟩ := @text_can_be_read_back Unit Unit host (fun _ => none) arguments ()
  exact ⟨printed, (reads [candidate] _ printed).1.trans (by decide)⟩

end Command

end TagMenu
