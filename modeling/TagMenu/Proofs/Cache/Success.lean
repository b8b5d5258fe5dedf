import Mathlib
import TagMenu.Proofs.Cache.Ledger
import TagMenu.Proofs.Cache.Fixed

namespace TagMenu

open Disk (Timestamp)

def Event.answersAbout (key : Path.Key) (events : List Event) :
    List (Path × Except TagFile.Error (List Candidate)) :=
  events.filterMap fun
    | asked _ _ => none
    | read path answer => if path.key = key then some (path, answer) else none

theorem Event.answersAbout_append (key : Path.Key) (before after : List Event) :
    answersAbout key (before ++ after) = answersAbout key before ++ answersAbout key after :=
  List.filterMap_append

def Entry.answer (entry : Entry) : Path × Except TagFile.Error (List Candidate) := (entry.path, .ok entry.candidates)

namespace Cache

variable {σ : Type} {supply : Supply (StateM σ)} {policy : Eviction} {cache now after : Cache} {path : Path}
  {paths done : List Path} {report final : Report} {finding : Finding} {made : List Entry} {entry : Entry}
  {events new : List Event} {key : Path.Key} {modified : Timestamp} {candidates : List Candidate}
  {known : Option Entry} {start world next : σ}

/-- The entries that a refresh of `cache` has made so far: one for each file that was loaded, with the
    loader's only answer about that file. -/
structure Makes (supply : Supply (StateM σ)) (start : σ) (cache : Cache) (made : List Entry) (report : Report)
    (events : List Event) (now : Cache) : Prop where
  reported : report.loaded = made.map fun entry => (entry.path, entry.candidates.length)
  answered : ∀ key, Event.answersAbout key events = (made.filter (·.path.key = key)).map Entry.answer
  distinct : (made.map (·.path.key)).Nodup
  times : ∀ entry ∈ made, supply.time start entry.path = .ok entry.modified
  stale : ∀ entry ∈ made, (cache.get? entry.path).any (·.isFresh entry.modified) = false
  stored : ∀ entry ∈ made, now.get? entry.path = some entry

theorem Makes.keys (makes : Makes supply start cache made report events now) :
    Path.keys (report.loaded.map (·.1)) = made.map (·.path.key) := by
  rw [makes.reported, Path.keys, List.map_map, List.map_map]
  rfl

theorem Makes.nothing : Makes supply start cache [] {} [] cache := by
  constructor <;> simp [Event.answersAbout]

theorem Makes.silent (makes : Makes supply start cache made report events now)
    (silent : ∀ key, Event.answersAbout key new = []) (same : final.loaded = report.loaded) :
    Makes supply start cache made final (events ++ new) now where
  reported := same.trans makes.reported
  answered key := by rw [Event.answersAbout_append, silent, List.append_nil, makes.answered]
  distinct := makes.distinct
  times := makes.times
  stale := makes.stale
  stored := makes.stored

theorem Makes.load (makes : Makes supply start cache made report events now)
    (first : entry.path.key ∉ made.map (·.path.key))
    (time : supply.time start entry.path = .ok entry.modified)
    (stale : (cache.get? entry.path).any (·.isFresh entry.modified) = false)
    (heard : ∀ key, Event.answersAbout key new = if entry.path.key = key then [entry.answer] else [])
    (reported : final.loaded = report.loaded ++ [(entry.path, entry.candidates.length)]) :
    Makes supply start cache (made ++ [entry]) final (events ++ new) (now.insert entry) := by
  constructor
  · rw [reported, makes.reported, List.map_append, List.map_singleton]
  · intro key
    rw [Event.answersAbout_append, makes.answered, heard, List.filter_append, List.map_append]
    by_cases same : entry.path.key = key <;> simp [same]
  · have apart : ∀ earlier ∈ made, earlier.path.key ≠ entry.path.key := fun earlier member same =>
      first (same ▸ List.mem_map_of_mem member)
    simpa [List.nodup_append, makes.distinct] using apart
  · exact List.forall_mem_append.mpr ⟨makes.times, by simpa using time⟩
  · exact List.forall_mem_append.mpr ⟨makes.stale, by simpa using stale⟩
  · refine List.forall_mem_append.mpr ⟨fun earlier member => ?_, by simp⟩
    have apart : entry.path.key ≠ earlier.path.key := fun same => first (same ▸ List.mem_map_of_mem member)
    rw [get?_insert, if_neg apart]
    exact makes.stored earlier member

theorem answersAbout_look (look : Looked supply path known world finding next) (key : Path.Key) :
    Event.answersAbout key (eventsOfLook supply path known world) =
      match finding with
      | .loaded _ candidates => if path.key = key then [(path, .ok candidates)] else []
      | .refused cause => if path.key = key then [(path, .error cause)] else []
      | _ => [] := by
  by_cases same : path.key = key <;> cases look <;> simp_all [eventsOfLook, Event.answersAbout]

theorem makes_bringUp (still : supply.Still start) (oneTime : supply.OneTime start) {last : σ × List Event}
    (run : (bringUp supply.recorded paths {} cache).run (start, []) = ((.ok final, after), last)) :
    Progress supply start cache paths final after ∧ ∃ made, Makes supply start cache made final last.2 after := by
  refine (bringUp_invariant (fun done report now last => supply.Leads start last.1 ∧
    Progress supply start cache done report now ∧ ∃ made, Makes supply start cache made report last.2 now)
    ?_ [] ⟨.nowhere, .nothing, [], .nothing⟩ run).2
  rintro done path report now ⟨world, events⟩ finding ⟨next, later⟩ - ⟨led, progress, made, makes⟩ found accepted
  rw [look_recorded] at found
  obtain ⟨same, rest⟩ := Prod.mk.inj found
  obtain ⟨reached, rfl⟩ := Prod.mk.inj rest
  have looked := look_cases (Prod.ext same reached : (look supply path (now.get? path)).run world = (finding, next))
  refine ⟨looked.leads led, ?_⟩
  have heard := answersAbout_look looked
  have time := congrFun (still world led) path
  cases looked with
  | missing note answer =>
    exact ⟨progress.skip (time.symm.trans (congrArg Prod.fst answer)), made, makes.silent heard rfl⟩
  | current answer fresh =>
    exact ⟨progress.pass (time.symm.trans (congrArg Prod.fst answer)) fresh, made, makes.silent heard rfl⟩
  | refused => exact absurd rfl (accepted _)
  | loaded note answer stale content =>
    have before := time.symm.trans (congrArg Prod.fst answer)
    have first := progress.not_loaded (progress.unseen oneTime before stale)
    have kept := progress.untouched path first
    rw [makes.keys] at first
    exact ⟨progress.load oneTime before stale _, _, makes.load first before (kept ▸ stale) heard rfl⟩

theorem Makes.unmade (makes : Makes supply start cache made report events now) (oneTime : supply.OneTime start)
    (there : cache.get? path = some entry) (time : supply.time start path = .ok entry.modified) :
    path.key ∉ made.map (·.path.key) := by
  intro again
  obtain ⟨other, member, same⟩ := List.mem_map.mp again
  have times := oneTime other.path path _ _ same (makes.times other member) time
  have stale := makes.stale other member
  rw [cache.get?_congr same, there, times] at stale
  simp [Entry.isFresh] at stale

theorem Makes.made_of_stale (makes : Makes supply start cache made report events now)
    (progress : Progress supply start cache done report now) (looked : path ∈ done)
    (time : supply.time start path = .ok modified)
    (stale : ∀ entry, cache.get? path = some entry → entry.modified ≠ modified) :
    ∃ entry ∈ made, entry.path.key = path.key := by
  by_contra none
  have absent : path.key ∉ Path.keys (report.loaded.map (·.1)) := by
    rw [makes.keys]
    exact fun member => none (by simpa using member)
  have fresh := progress.current path looked modified time
  rw [progress.untouched path absent] at fresh
  cases there : cache.get? path with
  | none => simp [there] at fresh
  | some entry => exact stale entry there (by simpa [there, Entry.isFresh] using fresh)

/-- What is so after a refresh that succeeded, and what its report says. -/
structure Renewed (supply : Supply (StateM σ)) (world : σ) (cache : Cache) (paths : List Path) (report : Report)
    (after : Cache) : Prop where
  /-- An entry that is current stays, and the loader is not asked about its file. -/
  current : ∀ path ∈ paths, ∀ entry, cache.get? path = some entry → supply.time world path = .ok entry.modified →
    after.get? path = some entry ∧ Event.answersAbout path.key (eventsOf supply paths cache world) = []
  /-- A file without a current entry has one made of the only answer of the loader about it. -/
  renewed : ∀ path ∈ paths, ∀ modified, supply.time world path = .ok modified →
    (∀ entry, cache.get? path = some entry → entry.modified ≠ modified) →
      ∃ entry, after.get? path = some entry ∧ entry.modified = modified ∧ entry.path ∈ paths ∧
        Event.answersAbout path.key (eventsOf supply paths cache world) = [entry.answer]
  missing : ∀ path ∈ paths, (∀ spelling ∈ paths, spelling.key = path.key →
    ∃ failure, supply.time world spelling = .error failure) → after.get? path = cache.get? path
  unlisted : ∀ path, path.key ∉ Path.keys paths → path.key ∉ Path.keys report.evicted →
    after.get? path = cache.get? path
  count : report.loaded.length + report.unchanged + report.skipped.length = paths.length
  distinct : (Path.keys (report.loaded.map (·.1))).Nodup
  counts : ∀ load ∈ report.loaded, ∃ entry, after.get? load.1 = some entry ∧ load.2 = entry.candidates.length
  evicted : ∀ path ∈ report.evicted, path.key ∉ Path.keys paths ∧ after.get? path = none
  size : after.size + report.evicted.length =
    cache.size + (report.loaded.filter fun load => !cache.contains load.1).length

theorem filter_of_distinct (distinct : (made.map (·.path.key)).Nodup) (member : entry ∈ made) :
    made.filter (·.path.key = entry.path.key) = [entry] := by
  induction made with
  | nil => cases member
  | cons first rest ih =>
    rw [List.map_cons, List.nodup_cons] at distinct
    rcases List.mem_cons.mp member with rfl | later
    · have others : rest.filter (·.path.key = entry.path.key) = [] := by
        refine List.filter_eq_nil_iff.mpr fun other inside same => distinct.1 ?_
        exact List.mem_map.mpr ⟨other, inside, by simpa using same⟩
      rw [List.filter_cons_of_pos (by simp), others]
    · have apart : first.path.key ≠ entry.path.key := fun same => distinct.1 (same ▸ List.mem_map_of_mem later)
      rw [List.filter_cons_of_neg (by simpa using apart), ih distinct.2 later]

theorem length_removeAll_idle (cache : Cache) :
    (cache.removeAll cache.idlePaths).order.length + cache.idlePaths.length = cache.order.length := by
  have idle : ∃ due : Path → Bool, cache.idlePaths = cache.order.filter due ∧
      ∀ left right : Path, left.key = right.key → due left = due right := by
    unfold idlePaths
    cases cache.policy.limit? with
    | none => exact ⟨fun _ => false, by simp, fun _ _ _ => rfl⟩
    | some limit => exact ⟨_, rfl, fun left right same => by simp only [idleness?_eq_slot, same]⟩
  obtain ⟨due, dropped, alike⟩ := idle
  have left : ∀ path ∈ cache.order, decide (path.key ∉ Path.keys (cache.order.filter due)) = !due path := by
    intro path there
    rw [Bool.eq_iff_iff, decide_eq_true_iff, Bool.not_eq_true']
    constructor
    · intro absent
      by_contra goes
      exact absent (List.mem_map_of_mem (List.mem_filter.mpr ⟨there, by simpa using goes⟩))
    · intro stays gone
      obtain ⟨other, inside, same⟩ := List.mem_map.mp gone
      rw [alike path other same.symm, (List.mem_filter.mp inside).2] at stays
      cases stays
  rw [order_removeAll, dropped, List.filter_congr left, Nat.add_comm]
  exact (List.length_eq_length_filter_add due).symm

theorem Progress.of_startRefresh (progress : Progress supply start (cache.startRefresh paths) done report now) :
    Progress supply start cache done report now where
  count := progress.count
  skipped := progress.skipped
  loaded := progress.loaded
  current := progress.current
  order := by simpa using progress.order
  untouched path rest := (progress.untouched path rest).trans (get?_startRefresh cache paths path)

theorem Makes.of_startRefresh (makes : Makes supply start (cache.startRefresh paths) made report events now) :
    Makes supply start cache made report events now where
  reported := makes.reported
  answered := makes.answered
  distinct := makes.distinct
  times := makes.times
  stale := by simpa using makes.stale
  stored := makes.stored

theorem makes_of_refresh (still : supply.Still world) (oneTime : supply.OneTime world)
    (run : ((refresh supply paths cache).run world).1 = (.ok report, after)) :
    ∃ found ready made, Progress supply world cache paths found ready ∧
      Makes supply world cache made found (eventsOf supply paths cache world) ready ∧
      report = { found with evicted := ready.idlePaths } ∧ after = ready.removeAll ready.idlePaths ∧
      ∀ key ∈ Path.keys paths, key ∉ Path.keys ready.idlePaths := by
  obtain ⟨found, ready, next, looks, rfl, rfl⟩ := refresh_ok_cases run
  obtain ⟨log, recorded⟩ := bringUp_recorded supply paths {} (cache.startRefresh paths) world []
  rw [looks] at recorded
  obtain ⟨progress, made, makes⟩ := makes_bringUp still oneTime recorded
  refine ⟨found, ready, made, progress.of_startRefresh, ?_, rfl, rfl, idlePaths_unlisted looks⟩
  rw [eventsOf_eq, recorded]
  exact makes.of_startRefresh

/-- Whatever is in a cache and whatever the loader answers, a refresh that succeeds in a world that keeps
    still brings the listed files up to date and leaves the others as they were. -/
theorem successful_refresh_renews (supply : Supply (StateM σ)) (policy : Eviction) (past : History σ) (world : σ)
    (paths : List Path) (report : Report) (after : Cache) (still : supply.Still world)
    (oneTime : supply.OneTime world)
    (run : ((refresh supply paths (cacheAfter supply policy past)).run world).1 = (.ok report, after)) :
    Renewed supply world (cacheAfter supply policy past) paths report after := by
  have sound : (cacheAfter supply policy past).Sound := sound_cacheAfter supply policy past
  have soundAfter : after.Sound := by
    have next := sound_cacheAfter supply policy (.refresh world paths :: past)
    rwa [cacheAfter, Request.serve, run] at next
  obtain ⟨found, ready, made, progress, makes, rfl, rfl, busy⟩ := makes_of_refresh still oneTime run
  have listed : ∀ entry ∈ made, entry.path ∈ paths := by
    intro entry member
    have loaded : (entry.path, entry.candidates.length) ∈ found.loaded := makes.reported ▸ List.mem_map_of_mem member
    exact (progress.loaded _ loaded).1
  have kept : ∀ path ∈ paths, (ready.removeAll ready.idlePaths).get? path = ready.get? path := fun path inList => by
    rw [get?_removeAll, if_neg (busy _ (List.mem_map_of_mem inList))]
  have untouched : ∀ path : Path, path.key ∉ made.map (·.path.key) →
      ready.get? path = (cacheAfter supply policy past).get? path := fun path unmade =>
    progress.untouched path (by rwa [makes.keys])
  constructor
  · intro path inList entry there time
    have unmade := makes.unmade oneTime there time
    have none : made.filter (·.path.key = path.key) = [] :=
      List.filter_eq_nil_iff.mpr fun other member same => unmade (List.mem_map.mpr ⟨other, member, by simpa using same⟩)
    rw [kept path inList, untouched path unmade, makes.answered, none]
    exact ⟨there, rfl⟩
  · intro path inList modified time stale
    obtain ⟨entry, member, same⟩ := makes.made_of_stale progress inList time stale
    have now : entry.modified = modified := oneTime _ _ _ _ same (makes.times entry member) time
    refine ⟨entry, ?_, now, listed entry member, ?_⟩
    · rw [kept path inList, ← ready.get?_congr same, makes.stored entry member]
    · rw [← same, makes.answered, filter_of_distinct makes.distinct member, List.map_singleton]
  · intro path inList missing
    have unmade := progress.not_loaded missing
    rw [kept path inList, untouched path (by rwa [makes.keys] at unmade)]
  · intro path unlisted stays
    have unmade : path.key ∉ made.map (·.path.key) := fun member => by
      obtain ⟨entry, inside, same⟩ := List.mem_map.mp member
      exact unlisted (same ▸ List.mem_map_of_mem (listed entry inside))
    rw [get?_removeAll, if_neg stays, untouched path unmade]
  · exact progress.count
  · exact makes.keys ▸ makes.distinct
  · intro load member
    have loaded : load ∈ made.map fun entry => (entry.path, entry.candidates.length) := makes.reported ▸ member
    obtain ⟨entry, inside, rfl⟩ := List.mem_map.mp loaded
    exact ⟨entry, by rw [kept _ (listed entry inside), makes.stored entry inside], rfl⟩
  · intro path gone
    refine ⟨fun inList => busy _ inList (List.mem_map_of_mem gone), ?_⟩
    rw [get?_removeAll, if_pos (List.mem_map_of_mem gone)]
  · rw [sound.size, soundAfter.size, length_removeAll_idle, progress.order, List.length_append, List.filter_map,
      List.length_map]
    rfl

/-- A file is listed in two spellings and has changed, another cannot be read but is current, a third is not
    there, and a fourth is no longer listed. -/
theorem successful_refresh_renews_of_each :
    let shelf : Supply.Shelf := fun key =>
      if key = Path.key ⟨"a"⟩ then some (⟨2, 0⟩, some [.ofParts "f" "" "" "" ""])
      else if key = Path.key ⟨"b"⟩ then some (⟨1, 0⟩, none)
      else none
    let past : History Supply.Shelf :=
      [.insert ⟨⟨"c"⟩, ⟨1, 0⟩, []⟩, .insert ⟨⟨"b"⟩, ⟨1, 0⟩, []⟩, .insert ⟨⟨"a"⟩, ⟨1, 0⟩, []⟩]
    let paths : List Path := [⟨"a/."⟩, ⟨"d"⟩, ⟨"b"⟩, ⟨"a"⟩]
    let cache := cacheAfter Supply.ofShelf (.idle 1) past
    Supply.ofShelf.Still shelf ∧ Supply.ofShelf.OneTime shelf ∧
      ∃ report after, ((refresh .ofShelf paths cache).run shelf).1 = (.ok report, after) ∧
        Renewed .ofShelf shelf cache paths report after := by
  intro shelf past paths cache
  have fixed := Supply.fixed_ofShelf shelf
  have there : cache.get? ⟨"b"⟩ = some ⟨⟨"b"⟩, ⟨1, 0⟩, []⟩ := by
    have apart : Path.key ⟨"c"⟩ ≠ Path.key ⟨"b"⟩ := by decide
    simp only [cache, past, cacheAfter, Request.serve, get?_insert, if_neg apart, if_true]
  have succeeds : Succeeds .ofShelf paths cache shelf := by
    refine (succeeds_iff_loads fixed).mpr fun path listed modified time => ?_
    simp only [paths, List.mem_cons, List.not_mem_nil, or_false] at listed
    rcases listed with rfl | rfl | rfl | rfl
    · exact .inr ⟨_, rfl⟩
    · cases time
    · cases time
      exact .inl (by rw [there]; rfl)
    · exact .inr ⟨_, rfl⟩
  rcases run : ((refresh .ofShelf paths cache).run shelf).1 with ⟨failure | report, after⟩
  · rw [Succeeds, run] at succeeds
    cases succeeds
  · exact ⟨fixed.times, fixed.oneTime, report, after, rfl,
      successful_refresh_renews .ofShelf (.idle 1) past shelf paths report after fixed.times fixed.oneTime run⟩

end Cache

end TagMenu
