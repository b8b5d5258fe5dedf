import Mathlib
import TagMenu.Proofs.File.Formed
import TagMenu.Proofs.Source.Queries

namespace TagMenu

variable {σ : Type} {P : Entry → Prop} {cache : Cache} {paths : List Path} {source : Source} {candidate : Candidate}
  {candidates : List Candidate} {request : Source.Request}

namespace Cache

theorem every_after_refresh {supply : Supply (StateM σ)} (loads : ∀ path ∈ paths, ∀ modified world candidates next,
      (supply.load path).run world = (.ok candidates, next) → P ⟨path, modified, candidates⟩)
    (every : cache.Every P) (world : σ) : ((cache.refresh supply paths).run world).1.2.Every P := by
  obtain ⟨looked, rest, report, ready, next, dropped, split, looks, after, -⟩ := refresh_cases supply paths cache world
  rw [after]
  refine Every.removeAll (bringUp_invariant (fun _ _ cache _ => cache.Every P) ?_ [] (every.startRefresh paths) looks)
    dropped
  intro _ path _ cache world finding _ member every found _
  have listed : path ∈ paths := split ▸ List.mem_append_left _ member
  cases look_cases found with
  | loaded note answer stale content => exact every.insert (loads path listed _ _ _ _ content)
  | _ => exact every

theorem mem_entries {entry : Entry} (member : entry ∈ cache.entries) : ∃ path, cache.get? path = some entry := by
  obtain ⟨path, -, found⟩ := List.mem_filterMap.mp member
  exact ⟨path, found⟩

end Cache

theorem Snapshot.mem_gather {snapshot : Snapshot} {keyword : Keyword} (member : candidate ∈ snapshot.gather keyword) :
    ∃ entry ∈ snapshot.entries, candidate ∈ entry.candidates := by
  rw [gather, Index.matching_ofCandidates, (Index.perm_grouped _).mem_iff, List.mem_filter] at member
  exact List.mem_flatMap.mp member.1

theorem Snapshot.mem_answer {snapshot : Snapshot} {pattern : String}
    (answered : snapshot.answer pattern = .ok candidates) (member : candidate ∈ candidates) :
    ∃ entry ∈ snapshot.entries, candidate ∈ entry.candidates := by
  rw [answer] at answered
  cases compiled : Keyword.compile pattern with
  | error error =>
    rw [compiled] at answered
    cases answered
  | ok keyword =>
    rw [compiled] at answered
    cases answered
    exact mem_gather member

/-- Everything that can be loaded from the files that are looked for is like this. -/
def Surroundings.Gives (needs : Surroundings (StateM σ)) (P : Entry → Prop) : Prop :=
  ∀ file world path, path ∈ ((needs.discover file).run world).1 → ∀ modified reading candidates next,
    (needs.load path).run reading = (.ok candidates, next) → P ⟨path, modified, candidates⟩

namespace Host

def holding (path : Path) (content : ByteArray) : Host (StateM Unit) where
  workingDirectory := return ⟨"/"⟩
  modified other := return if other = path then .ok ⟨0, 0⟩ else .error .notFound
  read other := return if other = path then .ok content else .error .notFound
  write _ _ := return .error .permissionDenied
  exists? other := return decide (other = path)
  isFile other := return decide (other = path)
  entries _ _ := return []
  run _ _ := return .error .notFound
  note _ := return

theorem loadTags_holding {names : Unicode.NameTable} {path : Path} {content : ByteArray}
    (read : TagFile.readOctets names path content = .ok candidates) :
    (((holding path content).loadTags names path).run ()).1 = .ok candidates := by
  have found : (holding path content).content () path = .ok content := if_pos rfl
  rw [Cache.loadTags_run, tags, found]
  exact read

end Host

namespace Source

variable {needs : Surroundings (StateM σ)} {outside : Outside σ} {stage : Stage σ}

theorem every_fill (gives : needs.Gives P) (every : source.cache.Every P) (file : Option Path) (world : σ) :
    ((source.fill needs file).run world).1.2.cache.Every P := by
  rw [fill_run]
  exact Cache.every_after_refresh (fun path listed => gives file world path listed) every _

theorem every_gather (gives : needs.Gives P) (every : source.cache.Every P) (request : Request) (world : σ) :
    ((source.gather needs request).run world).1.2.cache.Every P := by
  cases empty : source.cache.isEmpty with
  | true =>
    rw [gather_empty needs request empty]
    exact every_fill gives every request.file world
  | false =>
    rw [gather_full needs request empty]
    exact every

theorem mem_gathered {world : σ} (answered : ((source.gather needs request).run world).1.1 = .ok candidates)
    (member : candidate ∈ candidates) :
    ∃ path entry, ((source.gather needs request).run world).1.2.cache.get? path = some entry ∧
      candidate ∈ entry.candidates := by
  have fromEntries : ∀ {cache : Cache}, cache.snapshot.answer request.pattern = .ok candidates →
      ∃ path entry, cache.get? path = some entry ∧ candidate ∈ entry.candidates := fun answered => by
    obtain ⟨entry, there, inside⟩ := Snapshot.mem_answer answered member
    obtain ⟨path, found⟩ := Cache.mem_entries there
    exact ⟨path, entry, found, inside⟩
  cases empty : source.cache.isEmpty with
  | false =>
    rw [gather_full needs request empty] at answered ⊢
    exact fromEntries answered
  | true =>
    rw [gather_empty needs request empty] at answered ⊢
    rcases filled : (source.fill needs request.file).run world with ⟨⟨error | report, after⟩, next⟩ <;>
      rw [filled] at answered
    · cases answered
    · exact fromEntries answered

theorem gives_watched (gives : ∀ file world path, path ∈ ((outside.discover file).run world).1.1 →
      ∀ modified reading candidates next, (outside.load path).run reading = (.ok candidates, next) →
        P ⟨path, modified, candidates⟩) : outside.watched.Gives P := by
  rintro file ⟨world, calls⟩ path listed modified ⟨reading, before⟩ candidates next loaded
  have answered : ((outside.load path).run reading).1 = .ok candidates := congrArg Prod.fst loaded
  exact gives file world path listed modified reading candidates _ (Prod.ext answered rfl)

theorem every_after (gives : outside.watched.Gives P) (settings : Settings) (world : σ) (steps : List (Step σ)) :
    ((Stage.start outside settings world).after outside steps).source.cache.Every P := by
  refine Stage.after_keeps (fun stage => stage.source.cache.Every P) ?_ (Cache.Every.empty settings.eviction)
  intro stage step _ every
  cases step with
  | change act => exact every
  | event event => exact every_fill gives every event.file _
  | fill file => exact every_fill gives every file _
  | ask request => exact every_gather gives every request _

/-- Whatever octets there are in files, whenever they change and whatever fails, the candidates that a source keeps and
    those that it answers are well formed. -/
theorem candidates_well_formed (outside : Outside σ) (host : Host (StateM σ)) (names : Unicode.NameTable)
    (settings : Settings) (world : σ) (steps : List (Step σ)) :
    let outside := { outside with load := host.loadTags names }
    let stage := (Stage.start outside settings world).after outside steps
    (∀ path entry, stage.source.cache.get? path = some entry →
      ∀ candidate ∈ entry.candidates, candidate.WellFormed names) ∧
    (∀ candidate ∈ stage.source.cache.snapshot.candidates, candidate.WellFormed names) ∧
    ∀ request candidates, (stage.take outside (.ask request)).1 = .found (.ok candidates) →
      ∀ candidate ∈ candidates, candidate.WellFormed names := by
  intro outside stage
  have gives : outside.watched.Gives fun entry => ∀ candidate ∈ entry.candidates, candidate.WellFormed names :=
    gives_watched fun _ _ _ _ _ _ _ _ loaded => Host.wellFormed_of_load loaded
  have every := every_after gives settings world steps
  have kept : ∀ path entry, stage.source.cache.get? path = some entry →
      ∀ candidate ∈ entry.candidates, candidate.WellFormed names := fun path entry found => (every path entry found).2
  refine ⟨kept, fun candidate member => ?_, fun request candidates answered candidate member => ?_⟩
  · obtain ⟨entry, there, inside⟩ := List.mem_flatMap.mp member
    obtain ⟨path, found⟩ := Cache.mem_entries there
    exact kept path entry found candidate inside
  · obtain ⟨path, entry, found, inside⟩ := mem_gathered (Answer.found.inj answered) member
    exact (every_gather gives every request (stage.world, stage.calls) path entry found).2 candidate inside

theorem candidates_well_formed_in_one_file :
    let host := Host.holding ⟨"/t"⟩ "f\tm\ts".toUTF8
    let outside : Outside Unit := {
      modified := host.modified
      load := host.loadTags fun _ => none
      note := host.note
      discover := fun _ => return ([⟨"/t"⟩], []) }
    let stage := (Stage.start outside {} ()).after outside [.fill none]
    let candidate := Candidate.ofParts "f" "" "" "" ""
    (stage.take outside (.ask { pattern := "f" })).1 = .found (.ok [candidate]) ∧
      candidate ∈ stage.source.cache.snapshot.candidates ∧ candidate.WellFormed fun _ => none := by
  intro host outside stage candidate
  have read : TagFile.readOctets (fun _ => none) ⟨"/t"⟩ "f\tm\ts".toUTF8 = .ok [candidate] := by decide +kernel
  obtain ⟨full, entries⟩ : stage.source.cache.isEmpty = false ∧
      stage.source.cache.entries = [⟨⟨"/t"⟩, ⟨0, 0⟩, [candidate]⟩] :=
    Stage.next_fill_first rfl rfl (Host.loadTags_holding read)
  have there : stage.source.cache.snapshot = ⟨[⟨⟨"/t"⟩, ⟨0, 0⟩, [candidate]⟩]⟩ := congrArg Snapshot.mk entries
  have answered : stage.source.cache.snapshot.answer "f" = .ok [candidate] := by
    rw [there]
    exact Snapshot.answer_one rfl (by decide +kernel)
  have asked : (stage.take outside (.ask { pattern := "f" })).1 = .found (.ok [candidate]) :=
    (congrArg Prod.fst (Stage.take_ask_full outside { pattern := "f" } full)).trans (congrArg Answer.found answered)
  obtain ⟨-, -, formed⟩ := candidates_well_formed outside host (fun _ => none) {} () [.fill none]
  have answers := formed { pattern := "f" } [candidate] asked candidate (List.mem_singleton_self _)
  refine ⟨asked, ?_, answers⟩
  rw [there]
  exact List.mem_singleton_self candidate

end Source

end TagMenu
