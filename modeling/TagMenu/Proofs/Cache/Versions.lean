import Mathlib
import TagMenu.Proofs.Cache.Failure

namespace TagMenu

open Disk (Timestamp)

/-- The number of stretches of equal times, each as long as can be. -/
def versions (times : List Timestamp) : Nat := (times.splitBy (· == ·)).length

theorem exists_last_stretch (times : List Timestamp) (last : Timestamp) :
    ∃ before count, times = before ++ List.replicate count last ∧ before.getLast? ≠ some last := by
  induction times using List.reverseRecOn with
  | nil => exact ⟨[], 0, rfl, by simp⟩
  | append_singleton times time ih =>
    by_cases same : time = last
    · obtain ⟨before, count, rfl, other⟩ := ih
      refine ⟨before, count + 1, ?_, other⟩
      rw [same, List.replicate_succ', List.append_assoc]
    · exact ⟨times ++ [time], 0, by simp, by simpa using same⟩

theorem versions_stretch {before : List Timestamp} {last : Timestamp} (other : before.getLast? ≠ some last)
    (count : Nat) : versions (before ++ List.replicate (count + 1) last) = versions before + 1 := by
  have apart : ∀ x ∈ before.getLast?, ∀ y ∈ (List.replicate (count + 1) last).head?, (x == y) = false := by
    intro x ends y starts
    obtain rfl : last = y := by simpa [List.replicate_succ] using starts
    have different : x ≠ last := fun same => other (same ▸ ends)
    simpa using different
  have alone : (List.replicate (count + 1) last).splitBy (· == ·) = [List.replicate (count + 1) last] := by
    refine List.splitBy_of_isChain (by simp) ?_
    simpa using List.isChain_replicate_of_rel (count + 1) rfl
  rw [versions, List.splitBy_append apart, alone, List.length_append]
  rfl

theorem versions_concat (times : List Timestamp) (time : Timestamp) :
    versions (times ++ [time]) = if times.getLast? = some time then versions times else versions times + 1 := by
  obtain ⟨before, count, rfl, other⟩ := exists_last_stretch times time
  cases count with
  | zero =>
    rw [List.replicate_zero, List.append_nil, if_neg other]
    exact versions_stretch other 0
  | succ count =>
    rw [if_pos (by simp [List.replicate_succ']), versions_stretch other count, List.append_assoc,
      ← List.replicate_succ', versions_stretch other (count + 1)]

namespace Event

def times (key : Path.Key) (events : List Event) : List Timestamp :=
  events.filterMap fun
    | asked path (.ok modified) => if path.key = key then some modified else none
    | _ => none

def loads (key : Path.Key) (events : List Event) : Nat := (readPaths events).countP (·.key = key)

theorem times_append (key : Path.Key) (first last : List Event) :
    times key (first ++ last) = times key first ++ times key last := List.filterMap_append

theorem loads_append (key : Path.Key) (first last : List Event) :
    loads key (first ++ last) = loads key first + loads key last := by
  simp [loads, readPaths]

end Event

namespace Cache

variable {σ : Type} {supply : Supply (StateM σ)} {cache after ready : Cache} {path : Path} {paths : List Path}
  {known : Option Entry} {finding : Finding} {report final : Report} {key : Path.Key} {events : List Event}
  {world next : σ}

/-- Each file has been loaded as often as it had another time than before, and its entry has the time
    that it had last. -/
def Counted (cache : Cache) (events : List Event) : Prop :=
  ∀ path, (cache.get? path).map (·.modified) = (Event.times path.key events).getLast? ∧
    Event.loads path.key events = versions (Event.times path.key events)

theorem Counted.empty (policy : Eviction) : Counted { policy } [] := by
  intro path
  rw [get?_empty]
  exact ⟨rfl, rfl⟩

theorem Counted.missing (counted : Counted cache events) (failure : Disk.Failure) :
    Counted cache (events ++ [.asked path (.error failure)]) := by
  intro other
  have noTime : Event.times other.key [.asked path (.error failure)] = [] := rfl
  have noLoad : Event.loads other.key [.asked path (.error failure)] = 0 := rfl
  rw [Event.times_append, Event.loads_append, noTime, noLoad, List.append_nil, Nat.add_zero]
  exact counted other

theorem Counted.current (counted : Counted cache events) {modified : Timestamp}
    (fresh : (cache.get? path).any (·.isFresh modified) = true) :
    Counted cache (events ++ [.asked path (.ok modified)]) := by
  intro other
  obtain ⟨last, loads⟩ := counted other
  have sameLoads : Event.loads other.key [.asked path (.ok modified)] = 0 := rfl
  rw [Event.times_append, Event.loads_append, sameLoads, Nat.add_zero]
  by_cases same : path.key = other.key
  · have time : (Event.times other.key events).getLast? = some modified := by
      obtain ⟨entry, found, current⟩ := (Option.any_eq_true _ _).mp fresh
      rw [← last, ← cache.get?_congr same, found]
      simpa [Entry.isFresh] using current
    have more : Event.times other.key [.asked path (.ok modified)] = [modified] := by simp [Event.times, same]
    rw [more, versions_concat, if_pos time]
    exact ⟨by simpa [time] using last, loads⟩
  · have more : Event.times other.key [.asked path (.ok modified)] = [] := by simp [Event.times, same]
    rw [more, List.append_nil]
    exact ⟨last, loads⟩

theorem Counted.loaded (counted : Counted cache events) {modified : Timestamp} {candidates : List Candidate}
    (stale : (cache.get? path).any (·.isFresh modified) = false) :
    Counted (cache.insert ⟨path, modified, candidates⟩)
      (events ++ [.asked path (.ok modified), .read path (.ok candidates)]) := by
  intro other
  obtain ⟨last, loads⟩ := counted other
  rw [Event.times_append, Event.loads_append, get?_insert]
  by_cases same : path.key = other.key
  · have time : (Event.times other.key events).getLast? ≠ some modified := by
      intro again
      rw [← last, ← cache.get?_congr same, Option.map_eq_some_iff] at again
      obtain ⟨entry, found, rfl⟩ := again
      simp [found, Entry.isFresh] at stale
    have more : Event.times other.key [.asked path (.ok modified), .read path (.ok candidates)] = [modified] := by
      simp [Event.times, same]
    have once : Event.loads other.key [.asked path (.ok modified), .read path (.ok candidates)] = 1 := by
      simp [Event.loads, Event.readPaths, same]
    rw [more, once, versions_concat, if_neg time, if_pos same, loads]
    exact ⟨by simp, rfl⟩
  · have more : Event.times other.key [.asked path (.ok modified), .read path (.ok candidates)] = [] := by
      simp [Event.times, same]
    have none : Event.loads other.key [.asked path (.ok modified), .read path (.ok candidates)] = 0 := by
      simp [Event.loads, Event.readPaths, same]
    rw [more, none, if_neg same, List.append_nil]
    exact ⟨last, loads⟩

theorem Counted.look (counted : Counted cache events)
    (found : (look supply path (cache.get? path)).run world = (finding, next)) (accepted : finding.Accepted) :
    Counted (finding.storeIn path cache) (events ++ eventsOfLook supply path (cache.get? path) world) := by
  unfold eventsOfLook
  cases look_cases found with
  | missing note answer =>
    rw [answer]
    exact counted.missing _
  | current answer fresh =>
    simp only [answer, fresh, if_true]
    exact counted.current fresh
  | refused => exact absurd rfl (accepted _)
  | loaded note answer stale content =>
    simp only [answer, stale, Bool.false_eq_true, if_false, content]
    exact counted.loaded stale

theorem Counted.bringUp (counted : Counted cache events) {last : σ × List Event}
    (run : (bringUp supply.recorded paths report cache).run (world, events) = ((.ok final, after), last)) :
    Counted after last.2 := by
  refine bringUp_invariant (fun _ _ now last => Counted now last.2) ?_ [] counted run
  rintro done path report now ⟨world, events⟩ finding next - counted found accepted
  rw [look_recorded] at found
  obtain ⟨same, rfl⟩ := Prod.mk.inj found
  exact counted.look (Prod.ext same rfl) accepted

theorem looked_bringUp (run : (bringUp supply paths {} cache).run world = ((.ok final, after), next)) :
    final.looked = paths.length := by
  refine bringUp_invariant (fun done report _ _ => report.looked = done.length) ?_ [] rfl run
  intro done path report _ _ _ _ _ count _ accepted
  rw [accepted.looked_addTo, count, List.length_append, List.length_singleton]

theorem looked_refresh (run : ((refresh supply paths cache).run world).1 = (.ok final, after)) :
    final.looked = paths.length := by
  obtain ⟨report, ready, next, looks, rfl, -⟩ := refresh_ok_cases run
  have count := looked_bringUp looks
  exact count

theorem refresh_retain (retain : cache.policy = .retain)
    (run : ((refresh supply paths cache).run world).1 = (.ok final, after)) :
    ∃ report next,
      (bringUp supply paths {} (cache.startRefresh paths)).run world = ((.ok report, after), next) := by
  obtain ⟨report, ready, next, looks, rfl, rfl⟩ := refresh_ok_cases run
  have none : ready.idlePaths = [] := (keeps_of_retain retain run).1
  rw [none]
  exact ⟨report, next, looks⟩

theorem record_of_looks {next last : σ × List Event} {outcome : Except Error Report × Cache}
    (looks : (bringUp supply.recorded paths {} (cache.startRefresh paths)).run (world, events) =
      ((.ok report, ready), next))
    (run : (refresh supply.recorded paths cache).run (world, events) = (outcome, last)) :
    last = (((refresh supply paths cache).run world).2, next.2) := by
  rw [refresh_recorded, looks] at run
  exact (congrArg Prod.snd run).symm

theorem Counted.refresh (counted : Counted cache events) (retain : cache.policy = .retain) {last : σ × List Event}
    (run : (refresh supply.recorded paths cache).run (world, events) = ((.ok final, after), last)) :
    Counted after last.2 := by
  obtain ⟨report, next, looks⟩ := refresh_retain retain (congrArg Prod.fst run)
  have started : Counted (cache.startRefresh paths) events := fun path => by
    rw [get?_startRefresh]
    exact counted path
  have counts := started.bringUp looks
  rwa [record_of_looks looks run]

end Cache

end TagMenu
