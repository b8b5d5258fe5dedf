import Mathlib
import TagMenu.Source.Basic
import TagMenu.Proofs.Cache.Groups
import TagMenu.Proofs.Cache.Look

namespace TagMenu

open Disk (Timestamp)

variable {σ : Type} {path : Path} {modified : Timestamp} {candidates : List Candidate} {world asked next : σ}

theorem Cache.refresh_first {supply : Supply (StateM σ)}
    (loads : (look supply path none).run world = (.loaded modified candidates, next)) :
    ∃ cache, ((refresh supply [path] {}).run world).1 = (.ok { loaded := [(path, candidates.length)] }, cache) ∧
      cache.isEmpty = false ∧ cache.entries = [⟨path, modified, candidates⟩] := by
  let cache := (({} : Cache).startRefresh [path]).insert ⟨path, modified, candidates⟩
  have looks : (bringUp supply [path] {} (({} : Cache).startRefresh [path])).run world =
      ((.ok { loaded := [(path, candidates.length)] }, cache), next) := by
    rw [bringUp_cons, get?_startRefresh_empty, loads]
    rfl
  have stays : cache.idlePaths = [] := by
    have policy : cache.policy = .retain := policy_startRefresh ..
    rw [idlePaths, policy]
    rfl
  have order : cache.order = [path] := by
    have absent : (({} : Cache).startRefresh [path]).contains path = false := by
      rw [contains_eq_get?, get?_startRefresh_empty]
      rfl
    simp [cache, insert, absent]
  refine ⟨cache, ?_, Std.HashMap.isEmpty_insert, ?_⟩
  · rw [refresh_ok looks, stays]
    rfl
  · rw [entries, order]
    simp [cache]

def Snapshot.answer (snapshot : Snapshot) (pattern : String) : Except CompletionError (List Candidate) :=
  ((Keyword.compile pattern).mapError .keyword).map snapshot.gather

theorem Snapshot.answer_one {pattern : String} {candidate : Candidate} {entry : Entry}
    (holds : entry.candidates = [candidate])
    (accepted : (Keyword.compile pattern).toOption.map (·.accepts candidate.word) = some true) :
    (⟨[entry]⟩ : Snapshot).answer pattern = .ok [candidate] := by
  rw [answer]
  cases compiled : Keyword.compile pattern with
  | error error =>
    rw [compiled] at accepted
    cases accepted
  | ok keyword =>
    rw [compiled] at accepted
    have accepted : keyword.accepts candidate.word = true := Option.some.inj accepted
    have only : (⟨[entry]⟩ : Snapshot).candidates.filter (keyword.accepts ·.word) = [candidate] := by
      simp [candidates, holds, accepted]
    refine congrArg Except.ok ?_
    rw [gather, Index.matching_ofCandidates, only]
    exact List.perm_singleton.mp (Index.perm_grouped [candidate])

namespace Source

variable {source : Source} {settings : Settings}

theorem fill_run (needs : Surroundings (StateM σ)) (source : Source) (file : Option Path) (world : σ) :
    ((source.fill needs file).run world).1 =
      let told := (needs.discover file).run world
      let noted := ((Cache.debug needs.toSupply (toString told.1.length ++ " relevant tag files")).run told.2).2
      let refreshed := ((source.cache.refresh needs.toSupply told.1).run noted).1
      (refreshed.1.mapError .cache, { source with cache := refreshed.2 }) := by
  rw [fill, Cache.run_bind, Cache.run_bind, Cache.run_bind]
  simp only
  rcases (source.cache.refresh needs.toSupply _).run _ with ⟨⟨error | report, cache⟩, last⟩ <;> rfl

theorem handle_run (needs : Surroundings (StateM σ)) (source : Source) (event : Event) (world : σ) :
    (source.handle needs event).run world =
      (source.fill needs event.file).run (((source.conflicts event).forM fun name =>
        progress needs ("Warning: source '" ++ name ++ "' and '" ++ source.settings.name ++
          "' probably should not mix.")).run world).2 := rfl

theorem query_eq (source : Source) (pattern : String) :
    source.query pattern = source.cache.snapshot.answer pattern := by
  rw [query, Snapshot.answer]
  cases Keyword.compile pattern <;> rfl

theorem gather_full (needs : Surroundings (StateM σ)) (request : Request) (full : source.cache.isEmpty = false)
    (world : σ) :
    (source.gather needs request).run world = ((source.cache.snapshot.answer request.pattern, source), world) := by
  rw [gather, full, ← query_eq]
  rfl

theorem gather_empty (needs : Surroundings (StateM σ)) (request : Request) (empty : source.cache.isEmpty = true)
    (world : σ) :
    (source.gather needs request).run world =
      let filled := (source.fill needs request.file).run world
      ((filled.1.1 >>= fun _ => filled.1.2.cache.snapshot.answer request.pattern, filled.1.2), filled.2) := by
  rw [gather, if_pos empty, Cache.run_bind]
  rcases (source.fill needs request.file).run world with ⟨⟨error | report, after⟩, next⟩
  · rfl
  · simp only [query_eq]
    rfl

section

variable {needs : Surroundings (StateM σ)} {file : Option Path}

theorem fill_first (settings : Settings) (discovers : (needs.discover file).run world = ([path], asked))
    (loads : (Cache.look needs.toSupply path none).run
      ((Cache.debug needs.toSupply (toString 1 ++ " relevant tag files")).run asked).2 =
        (.loaded modified candidates, next)) :
    ∃ report cache, ((fill needs file ⟨settings, {}⟩).run world).1 = (.ok report, ⟨settings, cache⟩) ∧
      cache.isEmpty = false ∧ cache.entries = [⟨path, modified, candidates⟩] := by
  obtain ⟨cache, refreshed, full, entries⟩ := Cache.refresh_first loads
  refine ⟨{ loaded := [(path, candidates.length)] }, cache, ?_, full, entries⟩
  rw [fill_run, discovers]
  exact congrArg (fun refreshed => (refreshed.1.mapError CompletionError.cache, (⟨settings, refreshed.2⟩ : Source)))
    refreshed

theorem gather_first {pattern : String} (discovers : (needs.discover file).run world = ([path], asked))
    (loads : (Cache.look needs.toSupply path none).run
      ((Cache.debug needs.toSupply (toString 1 ++ " relevant tag files")).run asked).2 =
        (.loaded modified candidates, next)) :
    ((gather needs ⟨file, pattern⟩ ⟨settings, {}⟩).run world).1.1 =
      (⟨[⟨path, modified, candidates⟩]⟩ : Snapshot).answer pattern := by
  obtain ⟨report, cache, filled, -, entries⟩ := fill_first settings discovers loads
  have nothing : (⟨settings, {}⟩ : Source).cache.isEmpty = true := Std.HashMap.isEmpty_empty
  rw [gather_empty needs _ nothing]
  simp only [filled, ← entries]
  rfl

end

end Source

end TagMenu
