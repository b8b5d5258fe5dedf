import Mathlib
import TagMenu.Cache.Shared
import TagMenu.Proofs.Cache.Moments
import TagMenu.Proofs.Cache.Versions

namespace TagMenu

open Disk (Timestamp)

/-- The orders in which the calls of several callers can be served, each of whom makes one call after
    the other. -/
inductive Served {α : Type} : List (List α) → List α → Prop
  | done {callers : List (List α)} (idle : ∀ calls ∈ callers, calls = []) : Served callers []
  | next {before after : List (List α)} {call : α} {calls order : List α}
      (served : Served (before ++ calls :: after) order) :
      Served (before ++ (call :: calls) :: after) (call :: order)

theorem Served.perm {α : Type} {callers : List (List α)} {order : List α} (served : Served callers order) :
    order.Perm callers.flatten := by
  induction served with
  | done idle => rw [List.flatten_eq_nil_iff.mpr idle]
  | next served ih =>
    simp only [List.flatten_append, List.flatten_cons, List.cons_append] at ih ⊢
    exact (ih.cons _).trans List.perm_middle.symm

namespace Cache

variable {σ : Type} {supply : Supply (StateM σ)} {cache after other : Cache} {path : Path}
  {paths listed : List Path} {lists order : List (List Path)} {callers : List (List (List Path))}
  {known : Option Entry} {finding : Finding} {report final : Report} {key : Path.Key} {modified : Timestamp}
  {events : List Event} {start world next : σ}

theorem serve_cons (paths : List Path) (rest : List (List Path)) :
    (serve supply (paths :: rest) cache).run world =
      let first := (refresh supply paths cache).run world
      let others := (serve supply rest first.1.2).run first.2
      ((first.1.1 :: others.1.1, others.1.2), others.2) := rfl

theorem serve_nil : (serve supply [] cache).run world = (([], cache), world) := rfl

theorem serve_invariant (Inv : List (List Path) → List (Except Error Report) → Cache → σ → Prop)
    (keeps : ∀ done outcomes paths cache world report after next, Inv done outcomes cache world →
      (refresh supply paths cache).run world = ((.ok report, after), next) →
      Inv (done ++ [paths]) (outcomes ++ [.ok report]) after next)
    (done : List (List Path)) (earlier : List (Except Error Report)) (start : Inv done earlier cache world)
    (succeed : ∀ outcome ∈ ((serve supply lists cache).run world).1.1, outcome.isOk = true) :
    Inv (done ++ lists) (earlier ++ ((serve supply lists cache).run world).1.1)
      ((serve supply lists cache).run world).1.2 ((serve supply lists cache).run world).2 := by
  induction lists generalizing done earlier cache world with
  | nil =>
    rw [serve_nil, List.append_nil, List.append_nil]
    exact start
  | cons paths rest ih =>
    rw [serve_cons] at succeed ⊢
    rcases run : (refresh supply paths cache).run world with ⟨⟨error | report, after⟩, next⟩
    · have failed := succeed _ (List.mem_cons_self ..)
      rw [run] at failed
      cases failed
    · simp only [run, List.forall_mem_cons] at succeed ⊢
      have tail := ih _ _ (keeps done earlier paths cache world report after next start run) succeed.2
      simpa using tail

theorem serve_recorded (supply : Supply (StateM σ)) (lists : List (List Path)) (cache : Cache) (world : σ)
    (events : List Event) : ∃ log, (serve supply.recorded lists cache).run (world, events) =
      (((serve supply lists cache).run world).1, (((serve supply lists cache).run world).2, log)) := by
  induction lists generalizing cache world events with
  | nil => exact ⟨events, rfl⟩
  | cons paths rest ih =>
    rw [serve_cons, serve_cons, refresh_recorded]
    obtain ⟨log, run⟩ := ih ((refresh supply paths cache).run world).1.2
      ((refresh supply paths cache).run world).2
      ((bringUp supply.recorded paths {} (cache.startRefresh paths)).run (world, events)).2.2
    exact ⟨log, by simp only [run]⟩

def eventsServing (supply : Supply (StateM σ)) (lists : List (List Path)) (world : σ) : List Event :=
  ((serve supply.recorded lists {}).run (world, [])).2.2

def AllSucceed (supply : Supply (StateM σ)) (lists : List (List Path)) (world : σ) : Prop :=
  ∀ outcome ∈ ((serve supply lists {}).run world).1.1, outcome.isOk = true

theorem AllSucceed.recorded (succeed : AllSucceed supply lists world) :
    ∀ outcome ∈ ((serve supply.recorded lists {}).run (world, [])).1.1, outcome.isOk = true := by
  obtain ⟨log, run⟩ := serve_recorded supply lists {} world []
  rwa [run]

theorem loads_eq_versions (succeed : AllSucceed supply lists world) (path : Path) :
    Event.loads path.key (eventsServing supply lists world) =
      versions (Event.times path.key (eventsServing supply lists world)) := by
  have counted := serve_invariant (fun _ _ now last => now.policy = .retain ∧ Counted now last.2) ?_ [] []
    ⟨rfl, Counted.empty .retain⟩ succeed.recorded
  · exact (counted.2 path).2
  · rintro done outcomes paths now ⟨world, events⟩ report after next ⟨retain, counted⟩ run
    exact ⟨(policy_refresh (congrArg Prod.fst run)).trans retain, counted.refresh retain run⟩

def Tally.looked (sums : Tally) : Nat := sums.loaded + sums.unchanged + sums.skipped

theorem looked_serve (succeed : AllSucceed supply lists world) :
    (tally ((serve supply lists {}).run world).1.1).looked = (lists.map List.length).sum := by
  refine serve_invariant
    (fun done outcomes _ _ => (tally outcomes).looked = (done.map List.length).sum) ?_ [] [] rfl succeed
  intro done outcomes paths cache world report after next sum run
  have looked := looked_refresh (congrArg Prod.fst run)
  have more : (tally (outcomes ++ [.ok report])).looked = (tally outcomes).looked + report.looked := by
    simp only [tally, List.foldl_append, List.foldl_cons, List.foldl_nil, Tally.add, Tally.looked,
      Report.looked]
    omega
  rw [more, sum, looked, List.map_append, List.sum_append, List.map_singleton, List.sum_singleton]

def timesOf (supply : Supply (StateM σ)) (world : σ) (key : Path.Key) (paths : List Path) : List Timestamp :=
  paths.filterMap fun path => if path.key = key then (supply.time world path).toOption else none

theorem times_eventsOfLook (supply : Supply (StateM σ)) (path : Path) (known : Option Entry) (world : σ) :
    Event.times key (eventsOfLook supply path known world) = timesOf supply world key [path] := by
  rcases answer : (supply.modified path).run world with ⟨failure | modified, asked⟩
  · have time : supply.time world path = .error failure := congrArg Prod.fst answer
    simp [eventsOfLook, answer, timesOf, time, Event.times, Except.toOption]
  · have time : supply.time world path = .ok modified := congrArg Prod.fst answer
    by_cases fresh : known.any (·.isFresh modified) = true <;> by_cases same : path.key = key <;>
      simp [eventsOfLook, answer, timesOf, time, fresh, same, Event.times, Except.toOption]

theorem times_bringUp {last : σ × List Event} (still : supply.Still start) (led : supply.Leads start world)
    (run : (bringUp supply.recorded paths report cache).run (world, events) = ((.ok final, after), last)) :
    supply.Leads start last.1 ∧
      Event.times key last.2 = Event.times key events ++ timesOf supply start key paths := by
  refine bringUp_invariant (fun done _ _ last => supply.Leads start last.1 ∧
    Event.times key last.2 = Event.times key events ++ timesOf supply start key done) ?_ []
    ⟨led, by simp [timesOf]⟩ run
  rintro done path report now ⟨world, heard⟩ finding next - ⟨led, times⟩ found -
  rw [look_recorded] at found
  obtain ⟨same, rfl⟩ := Prod.mk.inj found
  refine ⟨(look_cases (Prod.ext same rfl)).leads led, ?_⟩
  have sameTimes : timesOf supply world key [path] = timesOf supply start key [path] := by
    rw [timesOf, still world led, timesOf]
  rw [Event.times_append, times, times_eventsOfLook, sameTimes, List.append_assoc, timesOf, timesOf, timesOf,
    List.filterMap_append]

theorem times_serving (still : supply.Still start) (succeed : AllSucceed supply lists start) (key : Path.Key) :
    Event.times key (eventsServing supply lists start) = timesOf supply start key lists.flatten := by
  refine (serve_invariant (fun done _ _ last => supply.Leads start last.1 ∧
    Event.times key last.2 = timesOf supply start key done.flatten) ?_ [] [] ⟨.nowhere, rfl⟩ succeed.recorded).2
  rintro done outcomes paths cache ⟨world, events⟩ report after last ⟨led, times⟩ run
  obtain ⟨_, _, next, looks, -, -⟩ := refresh_ok_cases (congrArg Prod.fst run)
  obtain rfl := record_of_looks looks run
  refine ⟨leads_refresh led paths cache, ?_⟩
  rw [(times_bringUp still led looks).2, times, List.flatten_append, List.flatten_singleton, timesOf, timesOf,
    timesOf, List.filterMap_append]

theorem versions_timesOf (oneTime : supply.OneTime world) (listed : path ∈ paths)
    (time : supply.time world path = .ok modified) : versions (timesOf supply world path.key paths) = 1 := by
  have member : modified ∈ timesOf supply world path.key paths :=
    List.mem_filterMap.mpr ⟨path, listed, by simp [time, Except.toOption]⟩
  have same : ∀ other ∈ timesOf supply world path.key paths, other = modified := by
    intro other inTimes
    obtain ⟨spelled, -, found⟩ := List.mem_filterMap.mp inTimes
    split at found
    case isTrue spelling =>
      cases answer : supply.time world spelled with
      | error failure => simp [answer, Except.toOption] at found
      | ok earlier =>
        obtain rfl : earlier = other := by simpa [answer, Except.toOption] using found
        exact oneTime _ _ _ _ spelling answer time
    case isFalse => cases found
  obtain ⟨count, several⟩ := Nat.exists_eq_succ_of_ne_zero (List.length_pos_of_mem member).ne'
  have nothing : ([] : List Timestamp).getLast? ≠ some modified := nofun
  rw [List.eq_replicate_of_mem same, several]
  exact versions_stretch nothing count

/-- Every file of these that can be looked at is known as it is, and no other file is known. -/
structure Filled (supply : Supply (StateM σ)) (world : σ) (listed : List Path) (cache : Cache) : Prop where
  known : ∀ path ∈ listed, ∀ modified, supply.time world path = .ok modified →
    ∃ candidates, supply.tags world path = .ok candidates ∧ cache.known? path = some (modified, candidates)
  only : ∀ path, cache.known? path ≠ none →
    ∃ spelled ∈ listed, spelled.key = path.key ∧ ∃ modified, supply.time world spelled = .ok modified

theorem Filled.empty (policy : Eviction) : Filled supply world [] { policy } := by
  constructor
  · exact fun path => nofun
  · intro path known
    simp [known?] at known

theorem Filled.current (filled : Filled supply world listed cache) (fixed : supply.Fixed world)
    (time : supply.time world path = .ok modified) (fresh : (cache.get? path).any (·.isFresh modified) = true) :
    ∃ candidates, supply.tags world path = .ok candidates ∧ cache.known? path = some (modified, candidates) := by
  obtain ⟨candidates, known⟩ := fresh_iff.mp fresh
  obtain ⟨spelled, inList, same, earlier, before⟩ := filled.only path (by simp [known])
  obtain ⟨found, tags, there⟩ := filled.known spelled inList earlier before
  rw [known?_congr same, known] at there
  obtain ⟨-, rfl⟩ := Prod.mk.inj (Option.some.inj there)
  exact ⟨candidates, fixed.oneFile _ _ _ _ _ same before time tags, known⟩

theorem not_due_of_fresh (oneTime : supply.OneTime world) (time : supply.time world path = .ok modified)
    (fresh : (cache.get? path).any (·.isFresh modified) = true) : ¬ Due supply world cache paths path.key := by
  rintro ⟨spelled, -, same, later, now, stale⟩
  obtain rfl := oneTime _ _ _ _ same now time
  rw [cache.get?_congr same, fresh] at stale
  cases stale

theorem Filled.refresh (filled : Filled supply world listed cache) (fixed : supply.Fixed world)
    (retain : cache.policy = .retain) (run : ((refresh supply paths cache).run world).1 = (.ok report, after)) :
    Filled supply world (listed ++ paths) after := by
  have outcome := outcome_of_refresh fixed run
  have kept : ∀ path, ¬ Due supply world cache paths path.key → after.known? path = cache.known? path := by
    intro path rest
    rw [outcome.old path rest, (keeps_of_retain retain run).1]
    exact if_neg (by simp)
  constructor
  · intro path inLists modified time
    cases fresh : (cache.get? path).any (·.isFresh modified) with
    | true =>
      rw [kept path (not_due_of_fresh fixed.oneTime time fresh)]
      exact filled.current fixed time fresh
    | false =>
      rcases List.mem_append.mp inLists with before | now
      · obtain ⟨candidates, -, known⟩ := filled.known path before modified time
        rw [fresh_iff.mpr ⟨candidates, known⟩] at fresh
        cases fresh
      · obtain ⟨candidates, tags, -, known⟩ := outcome.new path now modified time fresh
        exact ⟨candidates, tags, known⟩
  · intro path known
    by_cases due : Due supply world cache paths path.key
    · obtain ⟨spelled, inList, same, modified, time, -⟩ := due
      exact ⟨spelled, List.mem_append_right _ inList, same, modified, time⟩
    · obtain ⟨spelled, inList, same, found⟩ := filled.only path (kept path due ▸ known)
      exact ⟨spelled, List.mem_append_left _ inList, same, found⟩

theorem Filled.unique {others : List Path} (filled : Filled supply world listed cache)
    (again : Filled supply world others other)
    (same : ∀ path, path ∈ listed ↔ path ∈ others) (path : Path) : cache.known? path = other.known? path := by
  by_cases found : ∃ spelled ∈ listed, spelled.key = path.key ∧
    ∃ modified, supply.time world spelled = .ok modified
  · obtain ⟨spelled, inList, spelling, modified, time⟩ := found
    obtain ⟨candidates, tags, known⟩ := filled.known spelled inList modified time
    obtain ⟨_, tagsAgain, knownAgain⟩ := again.known spelled ((same spelled).mp inList) modified time
    obtain rfl := Except.ok.inj (tags.symm.trans tagsAgain)
    rw [← known?_congr spelling, known, ← known?_congr spelling, knownAgain]
  · have unknown : cache.known? path = none := by
      by_contra known
      exact found (filled.only path known)
    have unknownAgain : other.known? path = none := by
      by_contra known
      obtain ⟨spelled, inList, rest⟩ := again.only path known
      exact found ⟨spelled, (same spelled).mpr inList, rest⟩
    rw [unknown, unknownAgain]

theorem Filled.congr (filled : Filled supply world listed cache) (times : supply.time start = supply.time world)
    (tags : supply.tags start = supply.tags world) : Filled supply start listed cache := by
  constructor
  · rw [times, tags]
    exact filled.known
  · rw [times]
    exact filled.only

theorem filled_serve (fixed : supply.Fixed start) (succeed : AllSucceed supply lists start) :
    Filled supply start lists.flatten ((serve supply lists {}).run start).1.2 := by
  refine (serve_invariant (fun done _ cache world => supply.Leads start world ∧ cache.policy = .retain ∧
    Filled supply start done.flatten cache) ?_ [] [] ⟨.nowhere, rfl, .empty .retain⟩ succeed).2.2
  rintro done outcomes paths cache world report after next ⟨led, retain, filled⟩ run
  have times := fixed.times world led
  have tags := fixed.loads world led
  have more := (filled.congr times tags).refresh (fixed.of_led led) retain (congrArg Prod.fst run)
  have further := leads_refresh led paths cache
  rw [run] at further
  refine ⟨further, (policy_refresh (congrArg Prod.fst run)).trans retain, ?_⟩
  rw [List.flatten_append, List.flatten_singleton]
  exact more.congr times.symm tags.symm

theorem allSucceed_of_each (each : ∀ paths ∈ lists, ∀ cache later, supply.Leads world later →
    Succeeds supply paths cache later) : AllSucceed supply lists world := by
  have whole : ∀ cache later, supply.Leads world later →
      ∀ outcome ∈ ((serve supply lists cache).run later).1.1, outcome.isOk = true := by
    induction lists with
    | nil => exact fun cache later _ => nofun
    | cons paths rest ih =>
      intro cache later led
      rw [serve_cons]
      refine List.forall_mem_cons.mpr ⟨each paths (List.mem_cons_self ..) cache later led, ?_⟩
      exact ih (fun paths member => each paths (List.mem_cons_of_mem _ member)) _ _
        (leads_refresh led paths cache)
  exact whole {} world .nowhere

theorem succeeds_of_readable (cache : Cache) (readable : ∀ later, supply.Leads world later → ∀ path ∈ paths,
    ∃ candidates, supply.tags later path = .ok candidates) : Succeeds supply paths cache world := by
  rcases run : (bringUp supply paths {} (cache.startRefresh paths)).run world with
    ⟨⟨error | report, after⟩, last⟩
  · obtain ⟨before, rest, reached, rfl, looks, refused⟩ := bringUp_error run
    cases look_cases refused with
    | refused answer stale content =>
      obtain ⟨candidates, tags⟩ :=
        readable _ ((leads_bringUp .nowhere looks).modified answer) error.path (by simp)
      exact absurd (tags.symm.trans (congrArg Prod.fst content)) nofun
  · rw [Succeeds, refresh_ok run]
    rfl

theorem Filled.allSucceed (filled : Filled supply world lists.flatten cache) (fixed : supply.Fixed world)
    {others : List (List Path)} (same : others.Perm lists) : AllSucceed supply others world := by
  refine allSucceed_of_each fun paths member cache later led => ?_
  refine (succeeds_iff_loads (fixed.of_led led)).mpr fun path listed modified time => .inr ?_
  rw [fixed.times later led] at time
  obtain ⟨candidates, tags, -⟩ :=
    filled.known path (List.mem_flatten_of_mem (same.mem_iff.mp member) listed) modified time
  exact ⟨candidates, by rw [fixed.loads later led, tags]⟩

/-- What the calls of several callers come to, who share a cache and have been served in this order. -/
structure LoadedOnce (supply : Supply (StateM σ)) (world : σ) (callers : List (List (List Path)))
    (order : List (List Path)) : Prop where
  loads : ∀ path : Path, Event.loads path.key (eventsServing supply order world) =
    versions (Event.times path.key (eventsServing supply order world))
  looked : (tally ((serve supply order {}).run world).1.1).looked = (callers.flatten.map List.length).sum
  once : supply.Fixed world → ∀ path ∈ callers.flatten.flatten, ∀ modified,
    supply.time world path = .ok modified → Event.loads path.key (eventsServing supply order world) = 1
  /-- The callers could have been served in any other order, with the same in the cache at the end. -/
  same : supply.Fixed world → ∀ other, Served callers other → AllSucceed supply other world ∧
    ∀ path, ((serve supply other {}).run world).1.2.known? path =
      ((serve supply order {}).run world).1.2.known? path

/-- However many callers there are, and in whatever order they are served, a cache that keeps all files
    loads each of them once for each stretch of looks that find one time. Nothing is asked of the
    surroundings but that all calls succeed: files may have changed by each time that they are asked
    about, in one call or from one call to the next. -/
theorem each_version_loaded_once (supply : Supply (StateM σ)) (world : σ) (callers : List (List (List Path)))
    (order : List (List Path)) (served : Served callers order) (succeed : AllSucceed supply order world) :
    LoadedOnce supply world callers order := by
  constructor
  · exact loads_eq_versions succeed
  · rw [looked_serve succeed]
    exact (served.perm.map List.length).sum_eq
  · intro fixed path listed modified time
    rw [loads_eq_versions succeed, times_serving fixed.times succeed]
    exact versions_timesOf fixed.oneTime (served.perm.flatten.mem_iff.mpr listed) time
  · intro fixed other servedSo
    have filled := filled_serve fixed succeed
    have reordered := servedSo.perm.trans served.perm.symm
    have succeedSo := filled.allSucceed fixed reordered
    exact ⟨succeedSo, (filled_serve fixed succeedSo).unique filled fun path => reordered.flatten.mem_iff⟩

/-- Two callers list the same files, which are new at every moment in one case, and fixed in the other. -/
theorem each_version_loaded_once_for_two :
    let first : List Path := [⟨"a"⟩, ⟨"b"⟩]
    let second : List Path := [⟨"a/"⟩, ⟨"a"⟩]
    let third : List Path := [⟨"a"⟩]
    let callers := [[first, third], [second]]
    let order := [first, second, third]
    let shelf (moment : Nat) : Supply.Shelf := fun _ => some (⟨moment, 0⟩, some [])
    Served callers order ∧
      (AllSucceed (Supply.ofShelf.during shelf) order 0 ∧
        LoadedOnce (Supply.ofShelf.during shelf) 0 callers order) ∧
      AllSucceed .ofShelf order (shelf 0) ∧ Supply.ofShelf.Fixed (shelf 0) ∧
        LoadedOnce .ofShelf (shelf 0) callers order := by
  intro first second third callers order shelf
  have idle : Served [[], ([] : List (List Path))] [] := .done (by simp)
  have afterTwo : Served [[third], []] [third] := @Served.next _ [] [[]] third [] _ idle
  have afterOne : Served [[third], [second]] [second, third] := @Served.next _ [[third]] [] second [] _ afterTwo
  have served : Served callers order := @Served.next _ [] [[second]] first [third] _ afterOne
  have changing : AllSucceed (Supply.ofShelf.during shelf) order 0 :=
    allSucceed_of_each fun _ _ cache _ _ => succeeds_of_readable cache fun _ _ _ _ => ⟨[], rfl⟩
  have unchanging : AllSucceed .ofShelf order (shelf 0) :=
    allSucceed_of_each fun _ _ cache later led => succeeds_of_readable cache fun last further _ _ => by
      obtain rfl := Supply.eq_of_led_ofShelf (leads_trans led further)
      exact ⟨[], rfl⟩
  exact ⟨served, ⟨changing, each_version_loaded_once _ 0 callers order served changing⟩, unchanging,
    Supply.fixed_ofShelf _, each_version_loaded_once .ofShelf (shelf 0) callers order served unchanging⟩

end Cache

end TagMenu
