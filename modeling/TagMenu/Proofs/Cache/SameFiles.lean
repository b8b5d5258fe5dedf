import Mathlib
import TagMenu.Proofs.Cache.Scratch

namespace TagMenu.Cache

open Disk (Timestamp)

variable {σ : Type} {supply : Supply (StateM σ)} {cache after reached : Cache} {path : Path}
  {paths left right : List Path}
  {report other : Report} {key : Path.Key} {world : σ}

def Report.counts (report : Report) : List (Path.Key × Nat) := report.loaded.map fun load => (load.1.key, load.2)

theorem keys_counts (report : Report) : report.counts.map (·.1) = Path.keys (report.loaded.map (·.1)) := by
  simp [Report.counts]

theorem Due.same (due : Due supply world cache left key) (same : ∀ path, path ∈ left ↔ path ∈ right) :
    Due supply world cache right key := by
  obtain ⟨path, listed, found⟩ := due
  exact ⟨path, (same path).mp listed, found⟩

theorem idlePaths_same (same : ∀ path, path ∈ left ↔ path ∈ right) :
    (cache.startRefresh left).idlePaths = (cache.startRefresh right).idlePaths := by
  have listed : ∀ key, key ∈ Path.keys left ↔ key ∈ Path.keys right := fun key => by
    simp only [Path.keys, List.mem_map, same]
  have idleness : ∀ path, (cache.startRefresh left).idleness? path = (cache.startRefresh right).idleness? path := by
    intro path
    simp only [idleness?_eq_slot, slot?_startRefresh, listed, generation_startRefresh]
  simp only [idlePaths, policy_startRefresh, order_startRefresh, idleness]

theorem Outcome.mem_counts (outcome : Outcome supply world cache paths report after) {count : Nat} :
    (key, count) ∈ report.counts ↔ ∃ path ∈ paths, path.key = key ∧ ∃ modified candidates,
      supply.time world path = .ok modified ∧ (cache.get? path).any (·.isFresh modified) = false ∧
      supply.tags world path = .ok candidates ∧ candidates.length = count := by
  constructor
  · intro member
    have loaded : key ∈ Path.keys (report.loaded.map (·.1)) := keys_counts report ▸ List.mem_map_of_mem member
    obtain ⟨path, listed, rfl, modified, time, stale⟩ := (outcome.loaded key).mp loaded
    obtain ⟨candidates, tags, again, -⟩ := outcome.new path listed modified time stale
    -- A file is counted once, so this is the count.
    have once : (report.counts.map (·.1)).Nodup := keys_counts report ▸ outcome.distinct
    have counted := List.inj_on_of_nodup_map once again member rfl
    exact ⟨path, listed, rfl, modified, candidates, time, stale, tags, congrArg Prod.snd counted⟩
  · rintro ⟨path, listed, rfl, modified, candidates, time, stale, tags, rfl⟩
    obtain ⟨found, parsed, member, -⟩ := outcome.new path listed modified time stale
    rw [tags] at parsed
    cases parsed
    exact member

theorem Outcome.nodup_counts (outcome : Outcome supply world cache paths report after) : report.counts.Nodup :=
  List.Nodup.of_map (·.1) (keys_counts report ▸ outcome.distinct)

theorem keys_new (cache : Cache) (loaded gone : List Path) :
    Path.keys ((loaded.filter fun path => !cache.contains path).filter fun path => path.key ∉ Path.keys gone) =
      (Path.keys loaded).filter fun key => key ∉ Path.keys gone ∧ (cache.slot? key).isNone := by
  rw [Path.keys, List.filter_filter, Path.keys, List.filter_map]
  congr 1
  refine List.filter_congr fun path _ => ?_
  cases found : cache.slot? path.key <;> simp [contains_eq_slot, found]

/-- Two refreshes of one cache that come to the same, but for the spelling of paths and for the order
    in which new files stand behind the others. -/
structure SameResult (cache : Cache) (report : Report) (after : Cache) (other : Report) (reached : Cache) : Prop where
  known : ∀ path, after.known? path = reached.known? path
  loaded : report.counts.Perm other.counts
  skipped : ∀ path, path ∈ report.skipped ↔ path ∈ other.skipped
  evicted : report.evicted = other.evicted
  order : ∃ kept new added, kept.Sublist cache.order ∧ after.order = kept ++ new ∧ reached.order = kept ++ added ∧
    (Path.keys new).Perm (Path.keys added)

theorem Outcome.sameResult (first : Outcome supply world cache left report after)
    (second : Outcome supply world cache right other reached) (same : ∀ path, path ∈ left ↔ path ∈ right) :
    SameResult cache report after other reached := by
  have evicted : report.evicted = other.evicted := by rw [first.evicted, second.evicted, idlePaths_same same]
  have loaded : report.counts.Perm other.counts := by
    refine (List.perm_ext_iff_of_nodup first.nodup_counts second.nodup_counts).mpr fun count => ?_
    rw [first.mem_counts, second.mem_counts]
    simp only [same]
  constructor
  · intro path
    by_cases due : Due supply world cache left path.key
    · obtain ⟨spelled, listed, key, modified, time, stale⟩ := due
      obtain ⟨candidates, tags, -, known⟩ := first.new spelled listed modified time stale
      obtain ⟨again, parsed, -, knownToo⟩ := second.new spelled ((same spelled).mp listed) modified time stale
      rw [tags] at parsed
      cases parsed
      rw [← known?_congr key, ← known?_congr key, known, knownToo]
    · have notDue : ¬ Due supply world cache right path.key := fun due' =>
        due (due'.same fun path => (same path).symm)
      rw [first.old path due, second.old path notDue, evicted]
  · exact loaded
  · intro path
    simp only [first.skipped, second.skipped, List.mem_filter, same]
  · exact evicted
  · refine ⟨_, _, _, List.filter_sublist, by rw [first.order, List.filter_append],
      by rw [second.order, ← evicted, List.filter_append], ?_⟩
    have keys := loaded.map (·.1)
    rw [keys_counts, keys_counts] at keys
    rw [keys_new, keys_new]
    exact keys.filter _

theorem calls_of_refresh (run : ((refresh supply paths cache).run world).1 = (.ok report, after)) :
    Event.readPaths (eventsOf supply paths cache world) = report.loaded.map (·.1) := by
  obtain ⟨found, ready, next, looks, rfl, -⟩ := refresh_ok_cases run
  obtain ⟨log, recorded⟩ := bringUp_recorded supply paths {} (cache.startRefresh paths) world []
  rw [looks] at recorded
  rw [eventsOf_eq]
  exact recorded ▸ (paths_bringUp_recorded recorded).2

/-- Both refreshes fail, or both come to the same, with as many calls of the loader. -/
def Alike (supply : Supply (StateM σ)) (cache : Cache) (world : σ) (left right : List Path) : Prop :=
  match ((refresh supply left cache).run world).1, ((refresh supply right cache).run world).1 with
  | (.ok report, after), (.ok other, reached) =>
    SameResult cache report after other reached ∧
      (Event.readPaths (eventsOf supply left cache world)).length =
        (Event.readPaths (eventsOf supply right cache world)).length
  | (.error _, _), (.error _, _) => True
  | _, _ => False

/-- In a fixed world, it does not matter to a refresh in which order files are listed, nor how often. -/
theorem same_files_alike (supply : Supply (StateM σ)) (cache : Cache) (world : σ) (left right : List Path)
    (fixed : supply.Fixed world) (same : ∀ path, path ∈ left ↔ path ∈ right) :
    Alike supply cache world left right := by
  have succeed : Succeeds supply left cache world ↔ Succeeds supply right cache world := by
    rw [succeeds_iff_loads fixed, succeeds_iff_loads fixed]
    simp only [same]
  rw [Succeeds, Succeeds] at succeed
  unfold Alike
  rcases first : ((refresh supply left cache).run world).1 with ⟨failure | report, after⟩
  · rcases second : ((refresh supply right cache).run world).1 with ⟨failure' | other, reached⟩
    · trivial
    · simp [first, second] at succeed
  · rcases second : ((refresh supply right cache).run world).1 with ⟨failure' | other, reached⟩
    · simp [first, second] at succeed
    · have result := (outcome_of_refresh fixed first).sameResult (outcome_of_refresh fixed second) same
      refine ⟨result, ?_⟩
      rw [calls_of_refresh first, calls_of_refresh second, List.length_map, List.length_map]
      simpa [Report.counts] using result.loaded.length_eq

theorem same_files_alike_of_spellings :
    let machine := Machine.holding (.file "f\tm\ts".toUTF8 ⟨1000, 0⟩)
    let supply := Machine.host.supply fun _ => none
    let left : List Path := [⟨"t"⟩, ⟨"t/."⟩, ⟨"t"⟩]
    let right : List Path := [⟨"t/."⟩, ⟨"t"⟩]
    supply.Fixed machine ∧ (∀ path, path ∈ left ↔ path ∈ right) ∧ Succeeds supply left {} machine ∧
      Alike supply {} machine left right := by
  intro machine supply left right
  have fixed : supply.Fixed machine := fixed_supply Machine.still Machine.oneFile
  have same : ∀ path, path ∈ left ↔ path ∈ right := by simp [left, right, or_comm]
  obtain ⟨time, content⟩ := Machine.answers_holding (.file "f\tm\ts".toUTF8 ⟨1000, 0⟩) (by simp)
  have tags : ∃ candidates, supply.tags machine ⟨"t"⟩ = .ok candidates := by
    rw [tags_supply, Host.tags, content]
    exact ⟨[.ofParts "f" "" "" "" ""], by decide +kernel⟩
  have succeeds : Succeeds supply left {} machine := by
    refine (succeeds_iff_loads fixed).mpr fun path listed modified found => .inr ?_
    obtain ⟨candidates, tags⟩ := tags
    have key : path.key = Path.key ⟨"t"⟩ := by
      simp only [left, List.mem_cons, List.not_mem_nil, or_false] at listed
      rcases listed with rfl | rfl | rfl <;> decide
    exact ⟨candidates, fixed.oneFile _ _ _ _ _ key.symm time found tags⟩
  exact ⟨fixed, same, succeeds, same_files_alike supply {} machine left right fixed same⟩

end TagMenu.Cache
