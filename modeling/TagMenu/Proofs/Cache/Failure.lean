import Mathlib
import TagMenu.Proofs.Cache.Idle
import TagMenu.Proofs.Cache.Still

namespace TagMenu.Cache

open Disk (Timestamp)

variable {σ : Type} {supply : Supply (StateM σ)} {cache now after : Cache} {path : Path} {paths done : List Path}
  {finding : Finding} {report final : Report} {error : Error} {start world next last : σ}

theorem bringUp_congr (supply : Supply (StateM σ)) (paths : List Path) (report : Report) {left right : Cache}
    (world : σ) (same : ∀ path, left.get? path = right.get? path) :
    ∃ outcome left' right' next, (bringUp supply paths report left).run world = ((outcome, left'), next) ∧
      (bringUp supply paths report right).run world = ((outcome, right'), next) ∧
      ∀ path, left'.get? path = right'.get? path := by
  induction paths generalizing report left right world with
  | nil => exact ⟨_, _, _, _, bringUp_nil, bringUp_nil, same⟩
  | cons path rest ih =>
    rw [bringUp_cons, bringUp_cons, same path]
    rcases (look supply path (right.get? path)).run world with ⟨finding, next⟩
    rcases finding.accepted_or_refused with accepted | ⟨cause, rfl⟩
    · rw [goOn_accepted accepted, goOn_accepted accepted]
      apply ih
      cases finding with
      | loaded modified candidates =>
        intro other
        simp only [Finding.storeIn, get?_insert, same other]
      | _ => exact same
    · exact ⟨_, _, _, _, rfl, rfl, same⟩

theorem bringUp_append (rest : List Path)
    (run : (bringUp supply paths report cache).run world = ((.ok final, after), next)) :
    (bringUp supply (paths ++ rest) report cache).run world = (bringUp supply rest final after).run next := by
  induction paths generalizing report cache world with
  | nil =>
    rw [bringUp_nil] at run
    cases run
    rfl
  | cons path behind ih =>
    rcases found : (look supply path (cache.get? path)).run world with ⟨finding, reached⟩
    rw [bringUp_cons, found] at run
    rw [List.cons_append, bringUp_cons, found]
    rcases finding.accepted_or_refused with accepted | ⟨cause, rfl⟩
    · rw [goOn_accepted accepted] at run ⊢
      exact ih run
    · cases run

theorem slot?_bringUp {key : Path.Key} (unlisted : key ∉ Path.keys paths)
    (run : (bringUp supply paths report cache).run world = ((.ok final, after), next)) :
    after.slot? key = cache.slot? key := by
  refine bringUp_invariant (fun _ _ now _ => now.slot? key = cache.slot? key) ?_ [] rfl run
  intro _ path _ now _ finding _ member same _ _
  cases finding with
  | loaded modified candidates =>
    have other : path.key ≠ key := fun equal => unlisted (equal ▸ List.mem_map_of_mem member)
    rw [Finding.storeIn, slot?_insert, if_neg other, same]
  | _ => exact same

def Seen (cache : Cache) (paths : List Path) : Prop :=
  ∀ key ∈ Path.keys paths, ∀ slot, cache.slot? key = some slot → slot.lastSeen = cache.generation

theorem seen_startRefresh (cache : Cache) (paths : List Path) : (cache.startRefresh paths).Seen paths := by
  intro key listed slot found
  rw [slot?_startRefresh, if_pos listed] at found
  obtain ⟨old, -, rfl⟩ := Option.map_eq_some_iff.mp found
  rw [generation_startRefresh]

theorem Seen.bringUp {listed : List Path} (seen : cache.Seen listed)
    (run : (bringUp supply paths report cache).run world = ((.ok final, after), next)) : after.Seen listed := by
  refine bringUp_keeps (Seen · listed) ?_ seen run
  intro now entry seen key inList slot found
  rw [slot?_insert] at found
  split at found
  · cases found
    rfl
  · exact seen key inList slot found

theorem limit?_positive {policy : Eviction} {limit : Nat} (limited : policy.limit? = some limit) : 0 < limit := by
  cases policy with
  | retain => cases limited
  | idle refreshes =>
    obtain rfl := Option.some.inj limited
    exact Nat.le_max_right _ _

theorem Seen.not_idle (seen : cache.Seen paths) (listed : path.key ∈ Path.keys paths) {limit : Nat}
    (positive : 0 < limit) : (cache.idleness? path).any (limit ≤ ·) = false := by
  rw [idleness?_eq_slot]
  cases found : cache.slot? path.key with
  | none => rfl
  | some slot =>
    have now := seen path.key listed slot found
    simp only [Option.map_some, Option.any_some, decide_eq_false_iff_not]
    omega

theorem idlePaths_unlisted (run : (bringUp supply paths report (cache.startRefresh paths)).run world =
    ((.ok final, after), next)) : ∀ key ∈ Path.keys paths, key ∉ Path.keys after.idlePaths := by
  intro key listed idle
  obtain ⟨path, member, rfl⟩ := List.mem_map.mp idle
  unfold idlePaths at member
  cases limited : after.policy.limit? with
  | none => simp [limited] at member
  | some limit =>
    simp only [limited, List.mem_filter] at member
    have seen := (seen_startRefresh cache paths).bringUp run
    rw [seen.not_idle listed (limit?_positive limited)] at member
    cases member.2

theorem idlePaths_bringUp (run : (bringUp supply paths report (cache.startRefresh paths)).run world =
    ((.ok final, after), next)) : after.idlePaths = (cache.startRefresh paths).idlePaths := by
  have policy : after.policy = (cache.startRefresh paths).policy :=
    bringUp_keeps (·.policy = (cache.startRefresh paths).policy) (fun _ _ kept => kept) rfl run
  have generation : after.generation = (cache.startRefresh paths).generation :=
    bringUp_keeps (·.generation = (cache.startRefresh paths).generation) (fun _ _ kept => kept) rfl run
  have before := seen_startRefresh cache paths
  have seen := before.bringUp run
  obtain ⟨new, order, inside⟩ := order_bringUp run
  unfold idlePaths
  rw [policy]
  cases limited : (cache.startRefresh paths).policy.limit? with
  | none => rfl
  | some limit =>
    have positive := limit?_positive limited
    have fresh : new.filter (fun path => (after.idleness? path).any (limit ≤ ·)) = [] := by
      refine List.filter_eq_nil_iff.mpr fun path member => ?_
      rw [seen.not_idle (List.mem_map_of_mem (inside.subset member)) positive]
      exact Bool.false_ne_true
    simp only [order, List.filter_append, fresh, List.append_nil]
    refine List.filter_congr fun path _ => ?_
    by_cases listed : path.key ∈ Path.keys paths
    · rw [seen.not_idle listed positive, before.not_idle listed positive]
    · rw [idleness?_eq_slot, idleness?_eq_slot, slot?_bringUp listed run, generation]

structure Progress (supply : Supply (StateM σ)) (start : σ) (cache : Cache) (done : List Path) (report : Report)
    (now : Cache) : Prop where
  count : report.looked = done.length
  skipped : report.skipped = done.filter fun path => !(supply.time start path).isOk
  loaded : ∀ load ∈ report.loaded, load.1 ∈ done ∧ (supply.time start load.1).isOk = true
  current : ∀ path ∈ done, ∀ modified, supply.time start path = .ok modified →
    (now.get? path).any (·.isFresh modified) = true
  order : now.order = cache.order ++ (report.loaded.map (·.1)).filter fun path => !cache.contains path
  untouched : ∀ path, path.key ∉ Path.keys (report.loaded.map (·.1)) → now.get? path = cache.get? path

theorem mem_keys_loaded {key : Path.Key} :
    key ∈ Path.keys (report.loaded.map (·.1)) ↔ ∃ load ∈ report.loaded, load.1.key = key := by
  simp

theorem Progress.nothing : Progress supply start cache [] {} cache := by
  constructor <;> simp [Report.looked]

theorem Progress.loaded_more (progress : Progress supply start cache done report now) (path : Path) :
    ∀ load ∈ report.loaded, load.1 ∈ done ++ [path] ∧ (supply.time start load.1).isOk = true := by
  intro load member
  obtain ⟨inside, found⟩ := progress.loaded load member
  exact ⟨List.mem_append_left _ inside, found⟩

theorem Progress.skip (progress : Progress supply start cache done report now) {failure : Disk.Failure}
    (time : supply.time start path = .error failure) :
    Progress supply start cache (done ++ [path]) (Finding.missing.addTo path report) now where
  count := by
    have accepted : Finding.missing.Accepted := fun _ => nofun
    rw [accepted.looked_addTo, progress.count, List.length_append, List.length_singleton]
  skipped := by simp [Finding.addTo, progress.skipped, time]
  loaded := progress.loaded_more path
  current := List.forall_mem_append.mpr ⟨progress.current, by simp [time]⟩
  order := progress.order
  untouched := progress.untouched

theorem Progress.pass (progress : Progress supply start cache done report now) {modified : Timestamp}
    (time : supply.time start path = .ok modified) (fresh : (now.get? path).any (·.isFresh modified) = true) :
    Progress supply start cache (done ++ [path]) (Finding.current.addTo path report) now where
  count := by
    have accepted : Finding.current.Accepted := fun _ => nofun
    rw [accepted.looked_addTo, progress.count, List.length_append, List.length_singleton]
  skipped := by simp [Finding.addTo, progress.skipped, time]
  loaded := progress.loaded_more path
  current := List.forall_mem_append.mpr ⟨progress.current, by simpa [time] using fresh⟩
  order := progress.order
  untouched := progress.untouched

theorem Progress.unseen (progress : Progress supply start cache done report now) (oneTime : supply.OneTime start)
    {modified : Timestamp} (time : supply.time start path = .ok modified)
    (stale : (now.get? path).any (·.isFresh modified) = false) :
    ∀ other ∈ done, other.key = path.key → ∃ failure, supply.time start other = .error failure := by
  intro other member same
  cases found : supply.time start other with
  | error failure => exact ⟨failure, rfl⟩
  | ok earlier =>
    have fresh := progress.current other member earlier found
    rw [oneTime _ _ _ _ same found time, now.get?_congr same, stale] at fresh
    cases fresh

theorem Progress.not_loaded (progress : Progress supply start cache done report now)
    (missing : ∀ other ∈ done, other.key = path.key → ∃ failure, supply.time start other = .error failure) :
    path.key ∉ Path.keys (report.loaded.map (·.1)) := by
  intro again
  obtain ⟨load, member, same⟩ := mem_keys_loaded.mp again
  obtain ⟨inside, found⟩ := progress.loaded load member
  obtain ⟨failure, answer⟩ := missing load.1 inside same
  simp [answer] at found

theorem Progress.load (progress : Progress supply start cache done report now) (oneTime : supply.OneTime start)
    {modified : Timestamp} (time : supply.time start path = .ok modified)
    (stale : (now.get? path).any (·.isFresh modified) = false) (candidates : List Candidate) :
    Progress supply start cache (done ++ [path]) ((Finding.loaded modified candidates).addTo path report)
      (now.insert ⟨path, modified, candidates⟩) := by
  have first := progress.not_loaded (progress.unseen oneTime time stale)
  have present : now.contains path = cache.contains path := by
    rw [contains_eq_get?, contains_eq_get?, progress.untouched path first]
  constructor
  · have accepted : (Finding.loaded modified candidates).Accepted := fun _ => nofun
    rw [accepted.looked_addTo, progress.count, List.length_append, List.length_singleton]
  · simp [Finding.addTo, progress.skipped, time]
  · exact List.forall_mem_append.mpr ⟨progress.loaded_more path, by simp [time]⟩
  · refine List.forall_mem_append.mpr ⟨fun other member later found => ?_, ?_⟩
    · rw [get?_insert]
      split
      case isTrue same =>
        rw [oneTime _ _ _ _ same time found]
        simp [Entry.isFresh]
      case isFalse => exact progress.current other member later found
    · simp [time, Entry.isFresh]
  · rw [order_insert, progress.order, present, List.append_assoc]
    simp only [Finding.addTo, List.map_append, List.filter_append]
    cases there : cache.contains path <;> simp [there]
  · intro other unlisted
    simp only [Finding.addTo, List.map_append, List.mem_append, not_or] at unlisted
    rw [get?_insert, if_neg (fun same => unlisted.2 (by simp [same])), progress.untouched other unlisted.1]

theorem progress_bringUp (still : supply.Still start) (oneTime : supply.OneTime start)
    (run : (bringUp supply paths {} cache).run start = ((.ok final, after), last)) :
    supply.Leads start last ∧ Progress supply start cache paths final after := by
  refine bringUp_invariant
    (fun done report now world => supply.Leads start world ∧ Progress supply start cache done report now)
    ?_ [] ⟨.nowhere, .nothing⟩ run
  rintro done path report now world finding next - ⟨led, progress⟩ found accepted
  have looked := look_cases found
  refine ⟨looked.leads led, ?_⟩
  have time := congrFun (still world led) path
  cases looked with
  | missing note answer => exact progress.skip (time.symm.trans (congrArg Prod.fst answer))
  | current answer fresh => exact progress.pass (time.symm.trans (congrArg Prod.fst answer)) fresh
  | refused => exact absurd rfl (accepted _)
  | loaded note answer stale content =>
    exact progress.load oneTime (time.symm.trans (congrArg Prod.fst answer)) stale _

/-- How a refresh of `before` and more files fails at the file after them. -/
structure FailsAfter (supply : Supply (StateM σ)) (world : σ) (before paths : List Path) (cache : Cache)
    (error : Error) (after : Cache) : Prop where
  /-- The file has not been listed before, or only in spellings that could not be looked at. -/
  first : ∀ path ∈ before, path.key = error.path.key →
    path ≠ error.path ∧ ∃ failure, supply.time world path = .error failure
  /-- The files before it were treated as in a refresh of only those, which succeeds. -/
  earlier : ∃ report ready, ((refresh supply before cache).run world).1 = (.ok report, ready) ∧
    error.progress = { report with evicted := [] } ∧
    ∀ path, path.key ∈ Path.keys before → after.get? path = ready.get? path
  events : ∃ modified, eventsOf supply paths cache world =
    eventsOf supply before cache world ++ [.asked error.path (.ok modified), .read error.path (.error error.cause)]
  asked : Event.askedPaths (eventsOf supply paths cache world) = before ++ [error.path]
  read : Event.readPaths (eventsOf supply paths cache world) = error.progress.loaded.map (·.1) ++ [error.path]
  untouched : ∀ path, path.key = error.path.key ∨ path.key ∉ Path.keys before → after.get? path = cache.get? path
  keeps : Keeps cache after
  order : after.order = cache.order ++ (error.progress.loaded.map (·.1)).filter fun path => !cache.contains path
  count : error.progress.loaded.length + error.progress.unchanged + error.progress.skipped.length = before.length
  skipped : error.progress.skipped = before.filter fun path => !(supply.time world path).isOk
  evicted : error.progress.evicted = []

theorem refresh_alone {before : List Path}
    (looks : (bringUp supply before {} (cache.startRefresh paths)).run world = ((.ok report, after), next)) :
    ∃ idle ready, ((refresh supply before cache).run world).1 = (.ok { report with evicted := idle }, ready) ∧
      ∀ path, path.key ∈ Path.keys before → after.get? path = ready.get? path := by
  have same : ∀ path, (cache.startRefresh paths).get? path = (cache.startRefresh before).get? path := by simp
  obtain ⟨outcome, left, right, reached, run, alone, entries⟩ :=
    bringUp_congr supply before {} world same
  rw [looks] at run
  cases run
  refine ⟨_, _, refresh_ok alone, fun path listed => ?_⟩
  rw [get?_removeAll, if_neg (idlePaths_unlisted alone _ listed), entries path]

/-- What is asked about a list up to a failure is what is asked about the files before the failure,
    and then about the file that fails. -/
theorem eventsOf_failure {before rest : List Path} (split : paths = before ++ path :: rest)
    (looks : (bringUp supply before {} (cache.startRefresh paths)).run world = ((.ok report, after), next))
    {cause : TagFile.Error} (refused : (look supply path (after.get? path)).run next = (.refused cause, last)) :
    eventsOf supply paths cache world =
        eventsOf supply before cache world ++ eventsOfLook supply path (after.get? path) next ∧
      Event.askedPaths (eventsOf supply before cache world) = before ∧
      Event.readPaths (eventsOf supply before cache world) = report.loaded.map (·.1) := by
  subst split
  have same : ∀ other, (cache.startRefresh (before ++ path :: rest)).get? other =
      (cache.startRefresh before).get? other := by simp
  obtain ⟨log, recorded⟩ := bringUp_recorded supply before {} (cache.startRefresh (before ++ path :: rest)) world []
  rw [looks] at recorded
  obtain ⟨outcome, left, right, reached, run, alone, -⟩ :=
    bringUp_congr supply.recorded before {} (world, []) same
  rw [recorded] at run
  cases run
  obtain ⟨asked, read⟩ := paths_bringUp_recorded alone
  have short : eventsOf supply before cache world = [] ++ log := by rw [eventsOf_eq, alone]
  rw [short]
  refine ⟨?_, asked, read⟩
  rw [eventsOf_eq, bringUp_append _ recorded, bringUp_cons, look_recorded, refused]
  rfl

/-- Whatever is in the cache, a refresh that fails in a world that keeps still has dealt with the files
    before the failure as if they were the whole list, and with no other file. -/
theorem failed_refresh_stops (still : supply.Still world) (oneTime : supply.OneTime world)
    (failed : ((refresh supply paths cache).run world).1 = (.error error, after)) :
    ∃ before rest, paths = before ++ error.path :: rest ∧
      FailsAfter supply world before paths cache error after := by
  have run : (refresh supply paths cache).run world =
      ((.error error, after), ((refresh supply paths cache).run world).2) := Prod.ext failed rfl
  obtain ⟨before, rest, reached, split, looks, refused⟩ := bringUp_error (refresh_error.mp run)
  obtain ⟨led, progress⟩ := progress_bringUp still oneTime looks
  obtain ⟨idle, ready, alone, entries⟩ := refresh_alone looks
  obtain ⟨events, asked, read⟩ := eventsOf_failure split looks refused
  obtain ⟨modified, time, stale, heard⟩ := eventsOfLook_refused refused
  rw [still reached led] at time
  obtain ⟨none, kept⟩ := keeps_of_error failed
  -- A spelling that could be looked at would have been loaded or current, and so would the file be.
  have missing := progress.unseen oneTime time stale
  refine ⟨before, rest, split, ?_⟩
  constructor
  · intro path member same
    obtain ⟨failure, found⟩ := missing path member same
    refine ⟨?_, failure, found⟩
    rintro rfl
    rw [time] at found
    cases found
  · exact ⟨_, ready, alone, by rw [← none], entries⟩
  · exact ⟨modified, by rw [events, heard]⟩
  · rw [events, heard, Event.askedPaths, List.filterMap_append]
    exact congrArg (· ++ [error.path]) asked
  · rw [events, heard, Event.readPaths, List.filterMap_append]
    exact congrArg (· ++ [error.path]) read
  · intro path spared
    rw [progress.untouched path, get?_startRefresh]
    refine progress.not_loaded fun other member same => ?_
    rcases spared with failing | unlisted
    · exact missing other member (same.trans failing)
    · exact absurd (same ▸ List.mem_map_of_mem member) unlisted
  · exact kept
  · simpa using progress.order
  · exact progress.count
  · exact progress.skipped
  · exact none

def supplyWithout (broken : Path) : Supply (StateM Unit) where
  modified _ := return .ok ⟨0, 0⟩
  load path := return if path = broken then .error (.unreadable path .permissionDenied) else .ok []
  note _ := return

theorem failed_refresh_stops_at_second :
    let supply := supplyWithout ⟨"b"⟩
    let after := (({} : Cache).startRefresh [⟨"a"⟩, ⟨"b"⟩]).insert ⟨⟨"a"⟩, ⟨0, 0⟩, []⟩
    let error : Error := ⟨⟨"b"⟩, .unreadable ⟨"b"⟩ .permissionDenied, { loaded := [(⟨"a"⟩, 0)] }⟩
    supply.Still () ∧ supply.OneTime () ∧
      ((refresh supply [⟨"a"⟩, ⟨"b"⟩] {}).run ()).1 = (.error error, after) ∧
      ∃ before rest, [⟨"a"⟩, ⟨"b"⟩] = before ++ error.path :: rest ∧
        FailsAfter supply () before [⟨"a"⟩, ⟨"b"⟩] {} error after := by
  intro supply after error
  have still : supply.Still () := fun _ _ => rfl
  have oneTime : supply.OneTime () := fun _ _ _ _ _ left right => by
    cases left
    cases right
    rfl
  have absent : ∀ path, (({} : Cache).startRefresh [⟨"a"⟩, ⟨"b"⟩]).get? path = none := fun path => by
    rw [get?_startRefresh]
    exact get?_empty .retain path
  have failed : ((refresh supply [⟨"a"⟩, ⟨"b"⟩] {}).run ()).1 = (.error error, after) := by
    have looks : (bringUp supply [⟨"a"⟩, ⟨"b"⟩] {} (({} : Cache).startRefresh [⟨"a"⟩, ⟨"b"⟩])).run () =
        ((.error error, after), ()) := by
      have first : (look supply ⟨"a"⟩ none).run () = (.loaded ⟨0, 0⟩ [], ()) := rfl
      have second : (look supply ⟨"b"⟩ none).run () = (.refused error.cause, ()) := rfl
      have other : Path.key ⟨"a"⟩ ≠ Path.key ⟨"b"⟩ := by decide
      have accepted : (Finding.loaded ⟨0, 0⟩ []).Accepted := fun _ => nofun
      rw [bringUp_cons, absent, first, goOn_accepted accepted, bringUp_cons, Finding.storeIn, get?_insert,
        if_neg other, absent, second]
      rfl
    rw [refresh_error.mpr looks]
  exact ⟨still, oneTime, failed, failed_refresh_stops still oneTime failed⟩

end TagMenu.Cache
