import Mathlib
import TagMenu.Source.Basic
import TagMenu.Proofs.Cache.Still

namespace TagMenu

open Disk (Timestamp)

/-- What a source wants of its surroundings, with what comes of it. -/
inductive Call where
  | discovered (file : Option Path) (said : List String)
  | asked (path : Path) (answer : Except Disk.Failure Timestamp)
  | read (path : Path) (answer : Except TagFile.Error (List Candidate))
  | noted (note : Note)

/-- Surroundings that say what else they have told the user: looking for tag files may give something to read. -/
structure Outside (σ : Type) where
  modified : Path → StateM σ (Except Disk.Failure Timestamp)
  load : Path → StateM σ (Except TagFile.Error (List Candidate))
  note : Note → StateM σ Unit
  discover : Option Path → StateM σ (List Path × List String)

namespace Outside

variable {σ α : Type}

def calling (act : StateM σ α) (call : α → Call) : StateM (σ × List Call) α := do
  let (world, calls) ← get
  let (answer, next) := act.run world
  set (next, calls ++ [call answer])
  return answer

theorem calling_run (act : StateM σ α) (call : α → Call) (world : σ × List Call) :
    (calling act call).run world =
      ((act.run world.1).1, ((act.run world.1).2, world.2 ++ [call (act.run world.1).1])) := rfl

def watched (outside : Outside σ) : Surroundings (StateM (σ × List Call)) where
  modified path := calling (outside.modified path) (.asked path)
  load path := calling (outside.load path) (.read path)
  note note := calling (outside.note note) fun _ => .noted note
  discover file := Prod.fst <$> calling (outside.discover file) fun found => .discovered file found.2

end Outside

namespace Source

inductive Step (σ : Type) where
  | change (act : σ → σ)
  | event (event : Event)
  | fill (file : Option Path)
  | ask (request : Request)

inductive Answer where
  | nothing
  | filled (outcome : Except CompletionError Cache.Report)
  | found (outcome : Except CompletionError (List Candidate))

structure Stage (σ : Type) where
  source : Source
  world : σ
  calls : List Call

namespace Stage

variable {σ α : Type}

def start (outside : Outside σ) (settings : Settings) (world : σ) : Stage σ :=
  let (source, world, calls) := (Source.start outside.watched settings).run (world, [])
  { source, world, calls }

def answering (answer : α → Answer) (run : (α × Source) × σ × List Call) : Answer × Stage σ :=
  (answer run.1.1, { source := run.1.2, world := run.2.1, calls := run.2.2 })

def take (outside : Outside σ) (stage : Stage σ) : Step σ → Answer × Stage σ
  | .change act => (.nothing, { stage with world := act stage.world })
  | .event event =>
    answering .filled ((stage.source.handle outside.watched event).run (stage.world, stage.calls))
  | .fill file => answering .filled ((stage.source.fill outside.watched file).run (stage.world, stage.calls))
  | .ask request => answering .found ((stage.source.gather outside.watched request).run (stage.world, stage.calls))

def next (outside : Outside σ) (stage : Stage σ) (step : Step σ) : Stage σ := (stage.take outside step).2

def after (outside : Outside σ) (stage : Stage σ) (steps : List (Step σ)) : Stage σ := steps.foldl (next outside) stage

def through (outside : Outside σ) (stage : Stage σ) (steps : List (Step σ)) : List (Stage σ) :=
  steps.scanl (next outside) stage

theorem after_keeps {outside : Outside σ} {stage : Stage σ} {steps : List (Step σ)} (Inv : Stage σ → Prop)
    (keeps : ∀ stage, ∀ step ∈ steps, Inv stage → Inv (next outside stage step)) (kept : Inv stage) :
    Inv (after outside stage steps) := by
  induction steps generalizing stage with
  | nil => exact kept
  | cons step rest ih =>
    exact ih (fun stage step member => keeps stage step (List.mem_cons_of_mem _ member))
      (keeps stage step (List.mem_cons_self ..) kept)

end Stage

end Source

end TagMenu
