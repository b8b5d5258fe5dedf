import Mathlib
import TagMenu.Proofs.Cache.Scratch

namespace TagMenu

open Disk (Timestamp)

namespace Supply

variable {σ : Type} {supply : Supply (StateM σ)} {worlds : Nat → σ} {start now : Nat}

/-- Surroundings that change by themselves: each question about a file is put to the world of the
    moment, and takes a moment. -/
def during (supply : Supply (StateM σ)) (worlds : Nat → σ) : Supply (StateM Nat) where
  modified path := modifyGet fun moment => (supply.time (worlds moment) path, moment + 1)
  load path := modifyGet fun moment => (supply.tags (worlds moment) path, moment + 1)
  note _ := return

theorem modified_during {path : Path} {answer : Except Disk.Failure Timestamp} {next : Nat}
    (run : ((supply.during worlds).modified path).run now = (answer, next)) :
    supply.time (worlds now) path = answer ∧ next = now + 1 := by
  obtain ⟨rfl, rfl⟩ := Prod.mk.inj run
  exact ⟨rfl, rfl⟩

theorem load_during {path : Path} {answer : Except TagFile.Error (List Candidate)} {next : Nat}
    (run : ((supply.during worlds).load path).run now = (answer, next)) :
    supply.tags (worlds now) path = answer ∧ next = now + 1 := by
  obtain ⟨rfl, rfl⟩ := Prod.mk.inj run
  exact ⟨rfl, rfl⟩

theorem le_of_led (led : (supply.during worlds).Leads start now) : start ≤ now := by
  induction led with
  | nowhere => exact Nat.le_refl start
  | modified led run ih => exact (modified_during run).2 ▸ Nat.le_succ_of_le ih
  | load led run ih => exact (load_during run).2 ▸ Nat.le_succ_of_le ih
  | note led note ih => exact ih

end Supply

/-- Whenever the file with this key is not as it was a moment before, its time is one that it never had. -/
def Host.NewTimes {σ : Type} (host : Host (StateM σ)) (worlds : Nat → σ) (key : Path.Key) : Prop :=
  ∀ moment path modified, path.key = key → host.time (worlds (moment + 1)) path = .ok modified →
    (host.time (worlds moment) path = .ok modified ∧
      host.content (worlds (moment + 1)) path = host.content (worlds moment) path) ∨
    ∀ earlier ≤ moment, ∀ other : Path, other.key = key → host.time (worlds earlier) other ≠ .ok modified

namespace Cache

variable {σ : Type} {host : Host (StateM σ)} {names : Unicode.NameTable} {policy : Eviction} {worlds : Nat → σ}
  {cache after : Cache} {entry : Entry} {path other : Path} {paths : List Path} {known : Option Entry}
  {finding : Finding} {report final : Report} {modified : Timestamp} {asked now next last : Nat}

/-- The entry of a file that was read by now, no earlier than its time was asked for. -/
def ReadBy (host : Host (StateM σ)) (names : Unicode.NameTable) (worlds : Nat → σ) (now : Nat) (entry : Entry) :
    Prop :=
  ∃ asked read, asked ≤ read ∧ read ≤ now ∧ host.time (worlds asked) entry.path = .ok entry.modified ∧
    host.tags names (worlds read) entry.path = .ok entry.candidates

theorem ReadBy.later (read : ReadBy host names worlds now entry) (later : now ≤ next) :
    ReadBy host names worlds next entry := by
  obtain ⟨asked, read, order, readByNow, time, tags⟩ := read
  exact ⟨asked, read, order, readByNow.trans later, time, tags⟩

theorem readBy_look {candidates : List Candidate}
    (found : (look ((host.supply names).during worlds) path known).run now =
      (.loaded modified candidates, next)) :
    ReadBy host names worlds next ⟨path, modified, candidates⟩ := by
  cases look_cases found with
  | loaded note answer stale content =>
    obtain ⟨time, rfl⟩ := Supply.modified_during answer
    obtain ⟨tags, rfl⟩ := Supply.load_during content
    exact ⟨now, now + 1, Nat.le_succ now, Nat.le_succ _, time, (tags_supply path).symm.trans tags⟩

theorem every_bringUp (every : cache.Every (ReadBy host names worlds now))
    (run : (bringUp ((host.supply names).during worlds) paths report cache).run now =
      ((.ok final, after), last)) :
    after.Every (ReadBy host names worlds last) := by
  refine bringUp_invariant (fun _ _ cache moment => cache.Every (ReadBy host names worlds moment)) ?_ [] every run
  rintro done path report cache moment finding next - every found -
  have later := Supply.le_of_led ((look_cases found).leads .nowhere)
  have kept : cache.Every (ReadBy host names worlds next) := every.imp fun entry read => read.later later
  cases finding with
  | loaded modified candidates => exact kept.insert (readBy_look found)
  | _ => exact kept

theorem every_refresh (every : cache.Every (ReadBy host names worlds now)) (paths : List Path) :
    ((refresh ((host.supply names).during worlds) paths cache).run now).1.2.Every
      (ReadBy host names worlds ((refresh ((host.supply names).during worlds) paths cache).run now).2) := by
  obtain ⟨_, _, _, _, next, dropped, -, looks, left, further⟩ :=
    refresh_cases ((host.supply names).during worlds) paths cache now
  have ready := (every_bringUp (every.startRefresh paths) looks).removeAll dropped
  rw [left]
  exact ready.imp fun entry read => read.later (Supply.le_of_led further)

theorem end_of_refresh {supply : Supply (StateM σ)}
    (looks : (bringUp (supply.during worlds) paths {} (cache.startRefresh paths)).run now =
      ((.ok report, after), last)) :
    ((refresh (supply.during worlds) paths cache).run now).2 = last := by
  simp only [refresh, run_bind, looks, evict]
  show ((after.idlePaths.forM fun path =>
    debug (supply.during worlds) ("Evicting idle tag file " ++ path.text)).run last).2 = last
  induction after.idlePaths with
  | nil => rfl
  | cons path rest ih => exact ih

def DoneBy (supply : Supply (StateM Nat)) (policy : Eviction) : History Nat → Nat → Prop
  | [], _ => True
  | .refresh start paths :: past, now => DoneBy supply policy past start ∧
      ((refresh supply paths (cacheAfter supply policy past)).run start).2 ≤ now
  | _ :: past, now => DoneBy supply policy past now

theorem every_cacheAfter {history : History Nat} (only : OnlyRefreshed history)
    (done : DoneBy ((host.supply names).during worlds) policy history now) :
    (cacheAfter ((host.supply names).during worlds) policy history).Every (ReadBy host names worlds now) := by
  induction history generalizing now with
  | nil => exact .empty policy
  | cons request past ih =>
    have before {moment : Nat} (done : DoneBy ((host.supply names).during worlds) policy past moment) :=
      ih (fun entry member => only entry (List.mem_cons_of_mem _ member)) done
    cases request with
    | insert entry => exact absurd (List.mem_cons_self ..) (only entry)
    | refresh start paths => exact (every_refresh (before done.1) paths).imp fun entry read => read.later done.2
    | remove path => exact (before done).remove path
    | clear => exact .clear _

theorem same_since (newTimes : host.NewTimes worlds path.key) (time : host.time (worlds now) path = .ok modified)
    (same : other.key = path.key) (before : host.time (worlds asked) other = .ok modified) {moment : Nat}
    (late : asked ≤ moment) (early : moment ≤ now) :
    host.time (worlds moment) path = .ok modified ∧
      host.content (worlds moment) path = host.content (worlds now) path := by
  -- Backwards from now: as long as the time is there, it is not new, so the file has not changed.
  induction early using Nat.decreasingInduction with
  | self => exact ⟨time, rfl⟩
  | of_succ moment early ih =>
    obtain ⟨timeAfter, contentAfter⟩ := ih (Nat.le_succ_of_le late)
    rcases newTimes moment path modified rfl timeAfter with ⟨still, content⟩ | never
    · exact ⟨still, content.symm.trans contentAfter⟩
    · exact absurd before (never asked late other same)

variable {machines : Nat → Machine}

theorem ReadBy.current (read : ReadBy Machine.host names machines now entry)
    (newTimes : Machine.host.NewTimes machines path.key) (same : entry.path.key = path.key)
    (time : Machine.host.time (machines now) path = .ok entry.modified) :
    Machine.host.tags names (machines now) path = .ok entry.candidates := by
  obtain ⟨asked, read, order, readByNow, before, tags⟩ := read
  obtain ⟨timeThen, content⟩ := same_since newTimes time same before order readByNow
  obtain ⟨bytes, readThen, -⟩ := content_of_tags tags
  obtain ⟨modified, timeRead⟩ := Machine.time_of_content readThen
  have parsed := tags_congr Machine.oneFile same timeRead timeThen tags
  rwa [Host.tags, content] at parsed

theorem fresh_of_look
    (found : (look ((Machine.host.supply names).during machines) other (cache.get? other)).run now =
      (finding, next))
    (accepted : finding.Accepted) (time : Machine.host.time (machines now) path = .ok modified)
    (before : path = other ∨ (cache.get? path).any (·.isFresh modified) = true) :
    ((finding.storeIn other cache).get? path).any (·.isFresh modified) = true := by
  cases look_cases found with
  | missing note answer =>
    rcases before with rfl | fresh
    · exact absurd (time.symm.trans (Supply.modified_during answer).1) nofun
    · exact fresh
  | current answer current =>
    rcases before with rfl | fresh
    · obtain rfl := Except.ok.inj (time.symm.trans (Supply.modified_during answer).1)
      exact current
    · exact fresh
  | refused => exact absurd rfl (accepted _)
  | loaded note answer stale content =>
    rw [Finding.storeIn, get?_insert]
    split
    case isTrue same =>
      obtain ⟨rfl, -⟩ := Machine.oneFile _ _ _ _ same (Supply.modified_during answer).1 time
      simp [Entry.isFresh]
    case isFalse apart => exact before.resolve_left fun same => apart (congrArg Path.key same).symm

theorem fresh_bringUp (listed : path ∈ paths)
    (time : ∀ moment, now ≤ moment → moment ≤ last → Machine.host.time (machines moment) path = .ok modified)
    (run : (bringUp ((Machine.host.supply names).during machines) paths report cache).run now =
      ((.ok final, after), last)) : (after.get? path).any (·.isFresh modified) = true := by
  -- A look past the end says nothing, as the file may have another time by then.
  have whole := bringUp_invariant (fun done _ cache moment => now ≤ moment ∧
    (moment ≤ last → path ∈ done → (cache.get? path).any (·.isFresh modified) = true)) ?_ []
    ⟨Nat.le_refl now, fun _ => nofun⟩ run
  · exact whole.2 (Nat.le_refl last) listed
  · rintro done other report cache moment finding next - ⟨late, before⟩ found accepted
    have later := Supply.le_of_led ((look_cases found).leads .nowhere)
    refine ⟨late.trans later, fun early listed => ?_⟩
    refine fresh_of_look found accepted (time moment late (later.trans early)) ?_
    rcases List.mem_append.mp listed with earlier | here
    · exact .inr (before (later.trans early) earlier)
    · exact .inl (List.mem_singleton.mp here)

/-- What can be relied on for a file at a moment, with a cache that has come of these requests. -/
structure NeverStale (names : Unicode.NameTable) (policy : Eviction) (machines : Nat → Machine)
    (history : History Nat) (now : Nat) (path : Path) : Prop where
  current : ∀ entry,
    (cacheAfter ((Machine.host.supply names).during machines) policy history).get? path = some entry →
    Machine.host.time (machines now) path = .ok entry.modified →
    Machine.host.tags names (machines now) path = .ok entry.candidates
  /-- A file that has one time from the beginning of a refresh to its end is known as it is by then. -/
  refreshed : ∀ paths report after last modified, path ∈ paths →
    (refresh ((Machine.host.supply names).during machines) paths
      (cacheAfter ((Machine.host.supply names).during machines) policy history)).run now =
        ((.ok report, after), last) →
    Machine.host.time (machines now) path = .ok modified →
    Machine.host.time (machines last) path = .ok modified →
    ∃ entry, after.get? path = some entry ∧ entry.modified = modified ∧
      Machine.host.tags names (machines last) path = .ok entry.candidates

/-- Whatever is done to files while refreshes are on their way, an entry with the time that its file has
    now holds what is in the file now, if changes of the file always give it a time that it never had. -/
theorem never_stale (names : Unicode.NameTable) (policy : Eviction) (machines : Nat → Machine)
    (history : History Nat) (now : Nat) (path : Path) (only : OnlyRefreshed history)
    (done : DoneBy ((Machine.host.supply names).during machines) policy history now)
    (newTimes : Machine.host.NewTimes machines path.key) :
    NeverStale names policy machines history now path := by
  constructor
  · intro entry found time
    obtain ⟨same, read⟩ := every_cacheAfter only done path entry found
    exact read.current newTimes same time
  · intro paths report after last modified listed run before time
    obtain ⟨report, ready, next, looks, -, left⟩ := refresh_ok_cases (congrArg Prod.fst run)
    obtain rfl : last = next := (congrArg Prod.snd run).symm.trans (end_of_refresh looks)
    have fresh : (after.get? path).any (·.isFresh modified) = true := by
      rw [left, get?_removeAll, if_neg (idlePaths_unlisted looks _ (List.mem_map_of_mem listed))]
      exact fresh_bringUp listed
        (fun moment late early => (same_since newTimes time rfl before late early).1) looks
    obtain ⟨entry, found, current⟩ := (Option.any_eq_true _ _).mp fresh
    obtain rfl : entry.modified = modified := by simpa [Entry.isFresh] using current
    have every := every_refresh (every_cacheAfter only done) paths
    rw [run] at every
    obtain ⟨same, read⟩ := every path entry found
    exact ⟨entry, found, rfl, read.current newTimes same time⟩

theorem never_stale_after_replacement :
    let machines : Nat → Machine := fun moment =>
      if moment = 0 then Machine.holding (.file .empty ⟨1000, 0⟩)
      else Machine.holding (.file "f\tm\ts".toUTF8 ⟨2000, 0⟩)
    let names : Unicode.NameTable := fun _ => none
    let supply := (Machine.host.supply names).during machines
    let history : History Nat := [.refresh 0 [⟨"t"⟩]]
    OnlyRefreshed history ∧ DoneBy supply .retain history 2 ∧ Machine.host.NewTimes machines (Path.key ⟨"t"⟩) ∧
      (cacheAfter supply .retain history).known? ⟨"t"⟩ = some (⟨1000, 0⟩, [.ofParts "f" "" "" "" ""]) ∧
      NeverStale names .retain machines history 2 ⟨"t"⟩ := by
  intro machines names supply history
  have only : OnlyRefreshed history := by simp [OnlyRefreshed, history]
  obtain ⟨oldTime, -⟩ := Machine.answers_holding (.file .empty ⟨1000, 0⟩) (by simp)
  obtain ⟨newTime, newContent⟩ := Machine.answers_holding (.file "f\tm\ts".toUTF8 ⟨2000, 0⟩) (by simp)
  have newTimes : Machine.host.NewTimes machines (Path.key ⟨"t"⟩) := by
    intro moment path modified same time
    cases moment with
    | zero =>
      obtain ⟨rfl, -⟩ := Machine.oneFile _ _ _ _ same time newTime
      refine .inr fun earlier early other sameOther timeOther => ?_
      obtain rfl := Nat.le_zero.mp early
      obtain ⟨impossible, -⟩ := Machine.oneFile _ _ _ _ sameOther timeOther oldTime
      exact absurd impossible (by decide)
    | succ moment => exact .inl ⟨time, rfl⟩
  have tags : Machine.host.tags names (machines 1) ⟨"t"⟩ = .ok [.ofParts "f" "" "" "" ""] := by
    rw [Host.tags, show Machine.host.content (machines 1) ⟨"t"⟩ = _ from newContent]
    decide +kernel
  have found : (look supply ⟨"t"⟩ none).run 0 = (.loaded ⟨1000, 0⟩ [.ofParts "f" "" "" "" ""], 2) := by
    have asked : (supply.modified ⟨"t"⟩).run 0 = (.ok ⟨1000, 0⟩, 1) := Prod.ext oldTime rfl
    have read : (supply.load ⟨"t"⟩).run 1 = (.ok [.ofParts "f" "" "" "" ""], 2) :=
      Prod.ext ((tags_supply _).trans tags) rfl
    simp only [look, run_bind, asked, Option.any_none, Bool.false_eq_true, if_false, read]
    rfl
  have looks : (bringUp supply [⟨"t"⟩] {} (({} : Cache).startRefresh [⟨"t"⟩])).run 0 =
      ((.ok { loaded := [(⟨"t"⟩, 1)] },
        (({} : Cache).startRefresh [⟨"t"⟩]).insert ⟨⟨"t"⟩, ⟨1000, 0⟩, [.ofParts "f" "" "" "" ""]⟩), 2) := by
    rw [bringUp_cons, get?_startRefresh_empty, found]
    rfl
  have done : DoneBy supply .retain history 2 := ⟨trivial, (end_of_refresh looks).le⟩
  refine ⟨only, done, newTimes, ?_, never_stale names .retain machines history 2 ⟨"t"⟩ only done newTimes⟩
  show ((refresh supply [⟨"t"⟩] {}).run 0).1.2.known? ⟨"t"⟩ = _
  rw [refresh_ok looks, known?_removeAll, if_neg (idlePaths_unlisted looks _ (by simp)), known?, get?_insert,
    if_pos rfl]
  rfl

end Cache

end TagMenu
