import Mathlib
import TagMenu.Proofs.Source.Runs
import TagMenu.Proofs.Source.Stages

namespace TagMenu.Source

open Disk (Timestamp)

variable {σ : Type} {stage : Stage σ}

inductive Step.SameButPattern : Step σ → Step σ → Prop
  | same (step : Step σ) : SameButPattern step step
  | ask (file : Option Path) (pattern other : String) : SameButPattern (.ask ⟨file, pattern⟩) (.ask ⟨file, other⟩)

/-- Does a step leave it to others to fill the cache? -/
def Step.IsRead : Step σ → Prop
  | .change _ | .ask _ => True
  | .event _ | .fill _ => False

namespace Stage

theorem next_fill_first {outside : Outside Unit} {path : Path} {modified : Timestamp} {candidates : List Candidate}
    (discovers : ((outside.discover none).run ()).1.1 = [path])
    (time : ((outside.modified path).run ()).1 = .ok modified)
    (loads : ((outside.load path).run ()).1 = .ok candidates) :
    let stage := (start outside {} ()).next outside (.fill none)
    stage.source.cache.isEmpty = false ∧ stage.source.cache.entries = [⟨path, modified, candidates⟩] := by
  intro stage
  have asked : (outside.modified path).run () = (.ok modified, ()) := Prod.ext time rfl
  have read : (outside.load path).run () = (.ok candidates, ()) := Prod.ext loads rfl
  have looked : ∀ calls, ∃ next, (Cache.look outside.watched.toSupply path none).run ((), calls) =
      (.loaded modified candidates, next) := by
    intro calls
    simp only [Cache.look, Cache.run_bind, Outside.watched, Outside.calling_run, asked, Option.any_none,
      Bool.false_eq_true, if_false, read]
    exact ⟨_, rfl⟩
  have discovered : (outside.watched.discover none).run ((), (start outside {} ()).calls) = ([path], _) :=
    Prod.ext discovers rfl
  obtain ⟨_, looked⟩ := looked _
  obtain ⟨report, cache, filled, full, entries⟩ := fill_first {} discovered looked
  have same : stage.source.cache = cache := congrArg (·.2.cache) filled
  rw [same]
  exact ⟨full, entries⟩

theorem take_ask_full (outside : Outside σ) (request : Request) (full : stage.source.cache.isEmpty = false) :
    stage.take outside (.ask request) = (.found (stage.source.cache.snapshot.answer request.pattern), stage) := by
  rw [take, gather_full _ _ full]
  rfl

theorem take_ask_empty (outside : Outside σ) (request : Request) (empty : stage.source.cache.isEmpty = true) :
    ∃ outcome filled, stage.take outside (.fill request.file) = (.filled outcome, filled) ∧
      stage.take outside (.ask request) =
        (.found (outcome >>= fun _ => filled.source.cache.snapshot.answer request.pattern), filled) := by
  refine ⟨_, _, rfl, ?_⟩
  rw [take, gather_empty _ _ empty]
  rfl

theorem next_ask (outside : Outside σ) (request : Request) :
    next outside stage (.ask request) =
      if stage.source.cache.isEmpty then next outside stage (.fill request.file) else stage := by
  cases empty : stage.source.cache.isEmpty with
  | true =>
    obtain ⟨outcome, filled, byFill, byAsk⟩ := take_ask_empty outside request empty
    rw [if_pos rfl, next, next, byAsk, byFill]
  | false => rw [if_neg Bool.false_ne_true, next, take_ask_full outside request empty]

theorem next_congr (outside : Outside σ) {step other : Step σ} (same : step.SameButPattern other) :
    next outside stage step = next outside stage other := by
  cases same with
  | same => rfl
  | ask file pattern other => rw [next_ask, next_ask]

theorem through_congr (outside : Outside σ) {steps others : List (Step σ)}
    (same : List.Forall₂ Step.SameButPattern steps others) :
    stage.through outside steps = stage.through outside others := by
  induction same generalizing stage with
  | nil => rfl
  | cons first _ ih =>
    rw [through, through, List.scanl_cons, List.scanl_cons, next_congr outside first]
    exact congrArg (stage :: ·) ih

theorem after_reads (outside : Outside σ) {steps : List (Step σ)} (full : stage.source.cache.isEmpty = false)
    (reads : ∀ step ∈ steps, step.IsRead) :
    (stage.after outside steps).source = stage.source ∧ (stage.after outside steps).calls = stage.calls := by
  refine after_keeps (fun later => later.source = stage.source ∧ later.calls = stage.calls) ?_ ⟨rfl, rfl⟩
  rintro later step member ⟨source, calls⟩
  cases step with
  | change act => exact ⟨source, calls⟩
  | ask request =>
    have still : next outside later (.ask request) = later := by rw [next_ask, source, full, if_neg Bool.false_ne_true]
    rw [still]
    exact ⟨source, calls⟩
  | event event => exact (reads _ member).elim
  | fill file => exact (reads _ member).elim

end Stage

/-- A request to a source that has something in its cache asks nothing of the surroundings and changes nothing. A
    request to one that has nothing does what filling the cache does, and fails as that does. So other patterns, also
    such as are none, change nothing in what becomes of a source and in what it does; and as long as a source that has
    something in its cache is only read, whatever becomes of the files, it gives the same answers. -/
theorem queries_only_read (outside : Outside σ) (stage : Stage σ) :
    (∀ request, stage.source.cache.isEmpty = false →
      stage.take outside (.ask request) = (.found (stage.source.cache.snapshot.answer request.pattern), stage)) ∧
    (∀ request, stage.source.cache.isEmpty = true → ∃ outcome filled,
      stage.take outside (.fill request.file) = (.filled outcome, filled) ∧
      stage.take outside (.ask request) =
        (.found (outcome >>= fun _ => filled.source.cache.snapshot.answer request.pattern), filled)) ∧
    (∀ steps others, List.Forall₂ Step.SameButPattern steps others →
      stage.through outside steps = stage.through outside others) ∧
    ∀ steps, stage.source.cache.isEmpty = false → (∀ step ∈ steps, step.IsRead) →
      let later := stage.after outside steps
      later.source = stage.source ∧ later.calls = stage.calls ∧ ∀ request,
        later.take outside (.ask request) = (.found (stage.source.cache.snapshot.answer request.pattern), later) := by
  refine ⟨fun request => Stage.take_ask_full outside request, fun request => Stage.take_ask_empty outside request,
    fun steps others same => Stage.through_congr outside same, fun steps full reads => ?_⟩
  obtain ⟨source, calls⟩ := Stage.after_reads outside full reads
  refine ⟨source, calls, fun request => ?_⟩
  rw [← source] at full ⊢
  exact Stage.take_ask_full outside request full

theorem queries_only_read_once_filled :
    let outside : Outside Unit := {
      modified := fun _ => return .ok ⟨0, 0⟩
      load := fun _ => return .ok [.ofParts "f" "" "" "" ""]
      note := fun _ => return
      discover := fun _ => return ([⟨"t"⟩], []) }
    let stage := (Stage.start outside {} ()).next outside (.fill none)
    stage.source.cache.isEmpty = false ∧
      stage.take outside (.ask { pattern := "f" }) = (.found (.ok [.ofParts "f" "" "" "" ""]), stage) ∧
      ∃ error, stage.take outside (.ask { pattern := "(" }) = (.found (.error (.keyword error)), stage) := by
  intro outside stage
  obtain ⟨full, entries⟩ : stage.source.cache.isEmpty = false ∧
      stage.source.cache.entries = [⟨⟨"t"⟩, ⟨0, 0⟩, [.ofParts "f" "" "" "" ""]⟩] := Stage.next_fill_first rfl rfl rfl
  have refused : ∃ error, Keyword.compile "(" = .error error := by
    have failed : (Keyword.compile "(").toOption.isNone = true := by decide +kernel
    cases compiled : Keyword.compile "(" with
    | error error => exact ⟨error, rfl⟩
    | ok keyword =>
      rw [compiled] at failed
      cases failed
  obtain ⟨error, compiled⟩ := refused
  obtain ⟨reads, -⟩ := queries_only_read outside stage
  refine ⟨full, (reads { pattern := "f" } full).trans ?_, error, (reads { pattern := "(" } full).trans ?_⟩
  · rw [Cache.snapshot, entries, Snapshot.answer_one rfl (by decide +kernel)]
  · rw [Snapshot.answer, compiled]
    rfl

end TagMenu.Source
