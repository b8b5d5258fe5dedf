import Mathlib
import TagMenu.Cache.Snapshot
import TagMenu.Proofs.Cache.Fixed

namespace TagMenu

open Disk (Timestamp)

namespace Path

variable {found : Path → Bool} {paths : List Path} {path : Path}

def firstSpellings (found : Path → Bool) (paths : List Path) : List Path :=
  paths.foldl (fun seen path => if found path && !seen.any (·.same path) then seen ++ [path] else seen) []

theorem firstSpellings_concat (found : Path → Bool) (paths : List Path) (path : Path) :
    firstSpellings found (paths ++ [path]) =
      firstSpellings found paths ++
        if found path = true ∧ path.key ∉ keys (firstSpellings found paths) then [path] else [] := by
  have known : (firstSpellings found paths).any (·.same path) = true ↔
      path.key ∈ keys (firstSpellings found paths) := by simp [Path.same_iff]
  rw [firstSpellings, List.foldl_append, List.foldl_cons, List.foldl_nil, ← firstSpellings]
  by_cases here : found path = true <;> by_cases before : path.key ∈ keys (firstSpellings found paths)
  · simp [here, before, known.mpr before]
  · simp [here, before, mt known.mp before]
  · simp [here]
  · simp [here]

theorem mem_firstSpellings (member : path ∈ firstSpellings found paths) : path ∈ paths ∧ found path = true := by
  induction paths using List.reverseRecOn with
  | nil => cases member
  | append_singleton paths last ih =>
    rw [firstSpellings_concat, List.mem_append] at member
    rcases member with member | member
    · exact (ih member).imp_left (List.mem_append_left _)
    · split at member
      case isTrue first =>
        rw [List.mem_singleton.mp member]
        exact ⟨by simp, first.1⟩
      case isFalse => cases member

theorem firstSpellings_covers (member : path ∈ paths) (here : found path = true) :
    ∃ first ∈ firstSpellings found paths, first.key = path.key := by
  induction paths using List.reverseRecOn with
  | nil => cases member
  | append_singleton paths last ih =>
    rw [firstSpellings_concat]
    rcases List.mem_append.mp member with member | member
    · obtain ⟨first, listed, same⟩ := ih member
      exact ⟨first, List.mem_append_left _ listed, same⟩
    · obtain rfl := List.mem_singleton.mp member
      by_cases before : path.key ∈ keys (firstSpellings found paths)
      · obtain ⟨first, listed, same⟩ := List.mem_map.mp before
        exact ⟨first, List.mem_append_left _ listed, same⟩
      · exact ⟨path, List.mem_append_right _ (by simp [here, before]), rfl⟩

end Path

namespace Cache

variable {σ : Type} {supply : Supply (StateM σ)} {cache now after : Cache} {path : Path} {paths done : List Path}
  {report final : Report} {policy : Eviction} {start world next last : σ}

theorem loaded_cold (fixed : supply.Fixed start) (cold : ∀ path, cache.get? path = none)
    (run : (bringUp supply paths {} cache).run start = ((.ok final, after), last)) :
    final.loaded.map (·.1) = Path.firstSpellings (fun path => (supply.time start path).isOk) paths := by
  refine (bringUp_invariant (fun done report now world => supply.Leads start world ∧
    Progress supply start cache done report now ∧
    report.loaded.map (·.1) = Path.firstSpellings (fun path => (supply.time start path).isOk) done)
    ?_ [] ⟨.nowhere, .nothing, rfl⟩ run).2.2
  rintro done path report now world finding next - ⟨led, progress, loaded⟩ found accepted
  have looked := look_cases found
  refine ⟨looked.leads led, ?_⟩
  have time := congrFun (fixed.times world led) path
  rw [Path.firstSpellings_concat, ← loaded]
  cases looked with
  | missing note answer =>
    have missing := time.symm.trans (congrArg Prod.fst answer)
    exact ⟨progress.skip missing, by simp [Finding.addTo, missing]⟩
  | current answer fresh =>
    have present := time.symm.trans (congrArg Prod.fst answer)
    refine ⟨progress.pass present fresh, ?_⟩
    -- What is current has been loaded, for nothing was there at first.
    have before : path.key ∈ Path.keys (report.loaded.map (·.1)) := by
      by_contra absent
      rw [progress.untouched path absent, cold path] at fresh
      cases fresh
    rw [if_neg (fun first => first.2 before), List.append_nil]
    rfl
  | refused => exact absurd rfl (accepted _)
  | loaded note answer stale content =>
    have present := time.symm.trans (congrArg Prod.fst answer)
    have first := progress.not_loaded (progress.unseen fixed.oneTime present stale)
    refine ⟨progress.load fixed.oneTime present stale _, ?_⟩
    rw [if_pos ⟨by rw [present, isOk_ok], first⟩, Finding.addTo, List.map_append, List.map_singleton]

def loaded? (supply : Supply (StateM σ)) (world : σ) (path : Path) : Option (List Candidate) :=
  (supply.tags world path).toOption

theorem mapM_entries (each : ∀ path ∈ paths, ∃ entry, cache.get? path = some entry ∧
      loaded? supply world path = some entry.candidates) :
    (paths.mapM (loaded? supply world)).map List.flatten =
      some ((paths.filterMap cache.get?).flatMap (·.candidates)) := by
  induction paths with
  | nil => rfl
  | cons path rest ih =>
    obtain ⟨⟨entry, known, loads⟩, each⟩ := List.forall_mem_cons.mp each
    obtain ⟨lists, others, flat⟩ := Option.map_eq_some_iff.mp (ih each)
    rw [List.mapM_cons, loads, others, List.filterMap_cons_some known, List.flatMap_cons, ← flat]
    rfl

theorem mapM_congr {α β : Type} {f g : α → Option β} {items : List α} (same : ∀ item ∈ items, f item = g item) :
    items.mapM f = items.mapM g := by
  induction items with
  | nil => rfl
  | cons item rest ih =>
    obtain ⟨first, same⟩ := List.forall_mem_cons.mp same
    rw [List.mapM_cons, List.mapM_cons, first, ih same]

theorem mapM_eq_map {α β : Type} {f : α → Option β} {g : α → β} {items : List α}
    (each : ∀ item ∈ items, f item = some (g item)) : items.mapM f = some (items.map g) :=
  (mapM_congr each).trans List.mapM_pure

theorem mapM_eq_none {α β : Type} {f : α → Option β} {items : List α} {item : α} (member : item ∈ items)
    (none : f item = none) : items.mapM f = Option.none := by
  induction items with
  | nil => cases member
  | cons first rest ih =>
    rw [List.mapM_cons]
    rcases List.mem_cons.mp member with rfl | member
    · rw [none]
      rfl
    · rw [ih member]
      cases f first <;> rfl

theorem idlePaths_cold (policy : Eviction) (paths : List Path) :
    (({ policy } : Cache).startRefresh paths).idlePaths = [] := by
  have order := order_startRefresh { policy } paths
  unfold idlePaths
  cases (({ policy } : Cache).startRefresh paths).policy.limit? with
  | none => rfl
  | some limit => simp only [order, List.filter_nil]

theorem order_cold (fixed : supply.Fixed world)
    (run : ((refresh supply paths { policy }).run world).1 = (.ok final, after)) :
    after.order = Path.firstSpellings (fun path => (supply.time world path).isOk) paths := by
  have order := (outcome_of_refresh fixed run).order
  have evicted := (outcome_of_refresh fixed run).evicted
  obtain ⟨report, ready, next, looks, rfl, -⟩ := refresh_ok_cases run
  rw [evicted, idlePaths_cold] at order
  have loaded := loaded_cold fixed (get?_startRefresh_empty policy paths) looks
  rw [order, ← loaded]
  simp [contains_eq_get?]

theorem entry_cold (fixed : supply.Fixed world)
    (run : ((refresh supply paths { policy }).run world).1 = (.ok final, after)) (listed : path ∈ paths)
    (here : (supply.time world path).isOk = true) :
    ∃ entry, after.get? path = some entry ∧ loaded? supply world path = some entry.candidates := by
  cases time : supply.time world path with
  | error failure => simp [time] at here
  | ok modified =>
    obtain ⟨candidates, tags, -, known⟩ := (outcome_of_refresh fixed run).new path listed modified time (by simp)
    obtain ⟨entry, there, same⟩ := Option.map_eq_some_iff.mp known
    rw [loaded?, tags]
    exact ⟨entry, there, congrArg Option.some (congrArg Prod.snd same).symm⟩

theorem refused_cold (fixed : supply.Fixed world) (failed : ¬ Succeeds supply paths { policy } world) :
    ∃ path ∈ Path.firstSpellings (fun path => (supply.time world path).isOk) paths,
      loaded? supply world path = none := by
  rw [succeeds_iff_loads fixed] at failed
  push Not at failed
  obtain ⟨path, listed, modified, time, -, refused⟩ := failed
  have covered : ∃ first ∈ Path.firstSpellings (fun path => (supply.time world path).isOk) paths,
    first.key = path.key := Path.firstSpellings_covers listed (by simp [time])
  obtain ⟨first, member, same⟩ := covered
  refine ⟨first, member, ?_⟩
  cases earlier : supply.time world first with
  | error failure => simpa [earlier] using (Path.mem_firstSpellings member).2
  | ok before =>
    -- Had it been loaded under this path, it could be loaded under the other.
    cases tags : supply.tags world first with
    | error cause => rw [loaded?, tags]; rfl
    | ok candidates => exact absurd (fixed.oneFile _ _ _ _ _ same earlier time tags) (refused candidates)

/-- The candidates that a first refresh leaves are those of the files in order, whatever the policy. It fails if and
    only if one of the files cannot be loaded. -/
theorem candidates_cold (fixed : supply.Fixed world) (policy : Eviction) (paths : List Path) :
    ((Path.firstSpellings (fun path => (supply.time world path).isOk) paths).mapM (loaded? supply world)).map
        List.flatten =
      match ((refresh supply paths { policy }).run world).1 with
      | (.ok _, after) => some after.snapshot.candidates
      | (.error _, _) => none := by
  rcases run : ((refresh supply paths { policy }).run world).1 with ⟨error | final, after⟩
  · have failed : ¬ Succeeds supply paths { policy } world := by simp [Succeeds, run]
    obtain ⟨path, member, refused⟩ := refused_cold fixed failed
    rw [mapM_eq_none member refused]
    rfl
  · have each : ∀ path ∈ after.order, ∃ entry, after.get? path = some entry ∧
        loaded? supply world path = some entry.candidates := by
      rw [order_cold fixed run]
      intro path member
      obtain ⟨listed, here⟩ := Path.mem_firstSpellings member
      exact entry_cold fixed run listed here
    rw [← order_cold fixed run, mapM_entries each]
    rfl

end Cache

end TagMenu
