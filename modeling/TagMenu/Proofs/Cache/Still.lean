import Mathlib
import TagMenu.Proofs.Cache.Look

namespace TagMenu

open Disk (Timestamp)

inductive Event where
  | asked (path : Path) (answer : Except Disk.Failure Timestamp)
  | read (path : Path) (answer : Except TagFile.Error (List Candidate))

@[simp] theorem isOk_ok {ε α : Type} (value : α) : (.ok value : Except ε α).isOk = true := rfl

@[simp] theorem isOk_error {ε α : Type} (error : ε) : (.error error : Except ε α).isOk = false := rfl

namespace Event

def askedPaths (events : List Event) : List Path :=
  events.filterMap fun
    | asked path _ => some path
    | read _ _ => none

def readPaths (events : List Event) : List Path :=
  events.filterMap fun
    | asked _ _ => none
    | read path _ => some path

end Event

namespace Supply

variable {σ : Type}

def time (supply : Supply (StateM σ)) (world : σ) (path : Path) : Except Disk.Failure Timestamp :=
  ((supply.modified path).run world).1

/-- Whatever is asked, the files keep their times. -/
def Still (supply : Supply (StateM σ)) (world : σ) : Prop :=
  ∀ later, supply.Leads world later → supply.time later = supply.time world

def OneTime (supply : Supply (StateM σ)) (world : σ) : Prop :=
  ∀ left right earlier later, left.key = right.key → supply.time world left = .ok earlier →
    supply.time world right = .ok later → earlier = later

def writeDown {α : Type} (act : StateM σ α) (events : α → List Event) : StateM (σ × List Event) α := do
  let (world, earlier) ← get
  let (answer, next) := act.run world
  set (next, earlier ++ events answer)
  return answer

def recorded (supply : Supply (StateM σ)) : Supply (StateM (σ × List Event)) where
  modified path := writeDown (supply.modified path) fun answer => [.asked path answer]
  load path := writeDown (supply.load path) fun answer => [.read path answer]
  note note := writeDown (supply.note note) fun _ => []

end Supply

namespace Cache

variable {σ α : Type} {supply : Supply (StateM σ)} {path : Path} {paths : List Path} {known : Option Entry}
  {finding : Finding} {report final : Report} {cache after : Cache} {start world next : σ} {events : List Event}

theorem writeDown_run (act : StateM σ α) (events : α → List Event) (world : σ) (earlier : List Event) :
    (Supply.writeDown act events).run (world, earlier) =
      ((act.run world).1, ((act.run world).2, earlier ++ events (act.run world).1)) := rfl

theorem note_recorded (note : Note) :
    (supply.recorded.note note).run (world, events) = ((), (((supply.note note).run world).2, events)) := by
  rw [Supply.recorded, writeDown_run, List.append_nil]

theorem debug_recorded (text : String) :
    (debug supply.recorded text).run (world, events) = ((), (((debug supply text).run world).2, events)) :=
  note_recorded _

def eventsOfLook (supply : Supply (StateM σ)) (path : Path) (known : Option Entry) (world : σ) : List Event :=
  match (supply.modified path).run world with
  | (.error failure, _) => [.asked path (.error failure)]
  | (.ok modified, asked) =>
    if known.any (·.isFresh modified) then [.asked path (.ok modified)]
    else [.asked path (.ok modified), .read path ((supply.load path).run asked).1]

theorem look_recorded :
    (look supply.recorded path known).run (world, events) =
      (((look supply path known).run world).1,
        (((look supply path known).run world).2, events ++ eventsOfLook supply path known world)) := by
  have asking : (supply.recorded.modified path).run (world, events) =
    (((supply.modified path).run world).1, (((supply.modified path).run world).2,
      events ++ [.asked path ((supply.modified path).run world).1])) := rfl
  simp only [look, run_bind, eventsOfLook, asking]
  rcases (supply.modified path).run world with ⟨failure | modified, asked⟩
  · simp only [run_bind, debug_recorded]
    rfl
  · by_cases fresh : known.any (·.isFresh modified) = true
    · simp only [fresh, if_true]
      rfl
    · have reading : (supply.recorded.load path).run (asked, events ++ [.asked path (.ok modified)]) =
        (((supply.load path).run asked).1, (((supply.load path).run asked).2,
          events ++ [.asked path (.ok modified), .read path ((supply.load path).run asked).1])) := by
        rw [Supply.recorded, writeDown_run, List.append_assoc]
        rfl
      simp only [fresh, Bool.false_eq_true, if_false, run_bind, reading]
      rcases (supply.load path).run asked with ⟨cause | candidates, read⟩
      · rfl
      · simp only [run_bind, debug_recorded]
        rfl

theorem paths_eventsOfLook (run : (look supply path known).run world = (finding, next)) :
    Event.askedPaths (eventsOfLook supply path known world) = [path] ∧
      Event.readPaths (eventsOfLook supply path known world) =
        match finding with
        | .loaded _ _ | .refused _ => [path]
        | _ => [] := by
  unfold eventsOfLook
  cases look_cases run with
  | missing note answer => simp [answer, Event.askedPaths, Event.readPaths]
  | current answer fresh => simp [answer, fresh, Event.askedPaths, Event.readPaths]
  | refused answer stale content => simp [answer, stale, Event.askedPaths, Event.readPaths]
  | loaded note answer stale content => simp [answer, stale, Event.askedPaths, Event.readPaths]

theorem eventsOfLook_refused {cause : TagFile.Error}
    (refused : (look supply path known).run world = (.refused cause, next)) :
    ∃ modified, supply.time world path = .ok modified ∧ known.any (·.isFresh modified) = false ∧
      eventsOfLook supply path known world = [.asked path (.ok modified), .read path (.error cause)] := by
  cases look_cases refused with
  | refused answer stale content =>
    exact ⟨_, congrArg Prod.fst answer, stale, by simp [eventsOfLook, answer, stale, content]⟩

theorem bringUp_recorded (supply : Supply (StateM σ)) (paths : List Path) (report : Report) (cache : Cache)
    (world : σ) (events : List Event) :
    ∃ new, (bringUp supply.recorded paths report cache).run (world, events) =
      (((bringUp supply paths report cache).run world).1,
        (((bringUp supply paths report cache).run world).2, events ++ new)) := by
  induction paths generalizing report cache world events with
  | nil => exact ⟨[], by simp [bringUp_nil]⟩
  | cons path rest ih =>
    rw [bringUp_cons, bringUp_cons, look_recorded]
    rcases (look supply path (cache.get? path)).run world with ⟨finding, next⟩
    rcases finding.accepted_or_refused with accepted | ⟨cause, rfl⟩
    · obtain ⟨new, run⟩ := ih (finding.addTo path report) (finding.storeIn path cache) next
        (events ++ eventsOfLook supply path (cache.get? path) world)
      refine ⟨eventsOfLook supply path (cache.get? path) world ++ new, ?_⟩
      rw [goOn_accepted accepted, goOn_accepted accepted, run, List.append_assoc]
    · exact ⟨_, rfl⟩

theorem evict_recorded :
    (evict supply.recorded report cache).run (world, events) =
      (((evict supply report cache).run world).1, (((evict supply report cache).run world).2, events)) := by
  have told : ∀ (gone : List Path) (world : σ),
      (gone.forM fun path => debug supply.recorded ("Evicting idle tag file " ++ path.text)).run (world, events) =
        ((), ((gone.forM fun path => debug supply ("Evicting idle tag file " ++ path.text)).run world).2,
          events) := by
    intro gone
    induction gone with
    | nil => intro world; rfl
    | cons path rest ih =>
      intro world
      rw [List.forM, List.forM, run_bind, run_bind, debug_recorded, ih]
  rw [evict, evict, run_bind, run_bind, told]
  rfl

/-- The record changes nothing else, and says only what was asked before anything was dropped. -/
theorem refresh_recorded :
    (refresh supply.recorded paths cache).run (world, events) =
      (((refresh supply paths cache).run world).1, (((refresh supply paths cache).run world).2,
        ((bringUp supply.recorded paths {} (cache.startRefresh paths)).run (world, events)).2.2)) := by
  obtain ⟨new, run⟩ := bringUp_recorded supply paths {} (cache.startRefresh paths) world events
  simp only [refresh, run_bind, run]
  rcases (bringUp supply paths {} (cache.startRefresh paths)).run world with ⟨⟨error | report, ready⟩, next⟩
  · rfl
  · simp only [run_bind, evict_recorded, note_recorded]
    rfl

def eventsOf (supply : Supply (StateM σ)) (paths : List Path) (cache : Cache) (world : σ) : List Event :=
  ((refresh supply.recorded paths cache).run (world, [])).2.2

theorem eventsOf_eq : eventsOf supply paths cache world =
    ((bringUp supply.recorded paths {} (cache.startRefresh paths)).run (world, [])).2.2 := by
  rw [eventsOf, refresh_recorded]

theorem paths_bringUp_recorded {final : Report} {after : Cache} {last : σ × List Event}
    (run : (bringUp supply.recorded paths {} cache).run (world, []) = ((.ok final, after), last)) :
    Event.askedPaths last.2 = paths ∧ Event.readPaths last.2 = final.loaded.map (·.1) := by
  refine bringUp_invariant
    (fun done report _ last => Event.askedPaths last.2 = done ∧ Event.readPaths last.2 = report.loaded.map (·.1))
    ?_ [] ⟨rfl, rfl⟩ run
  rintro done path report now ⟨world, events⟩ finding next - ⟨asked, read⟩ found accepted
  rw [look_recorded] at found
  obtain ⟨same, rfl⟩ := Prod.mk.inj found
  have heard := paths_eventsOfLook (Prod.ext same rfl : (look supply path (now.get? path)).run world = (finding, _))
  simp only [Event.askedPaths, Event.readPaths, List.filterMap_append] at asked read heard ⊢
  rw [asked, read, heard.1, heard.2]
  refine ⟨rfl, ?_⟩
  cases finding with
  | loaded modified candidates => simp [Finding.addTo]
  | refused cause => exact absurd rfl (accepted cause)
  | _ => exact List.append_nil _

end Cache

end TagMenu
