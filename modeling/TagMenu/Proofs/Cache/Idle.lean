import Mathlib
import TagMenu.Proofs.Cache.Sound

namespace TagMenu.Cache

def Counts (cache : Cache) (missed : Path.Key → Nat) : Prop :=
  ∀ key slot, cache.slot? key = some slot → slot.lastSeen + missed key = cache.generation

variable {σ : Type} {supply : Supply (StateM σ)} {cache after : Cache} {missed : Path.Key → Nat} {paths : List Path}
  {report final : Report} {world next : σ}

theorem Counts.startRefresh (counts : cache.Counts missed) (paths : List Path) :
    (cache.startRefresh paths).Counts fun key => if key ∈ Path.keys paths then 0 else missed key + 1 := by
  intro key slot found
  rw [slot?_startRefresh] at found
  rw [generation_startRefresh]
  split at found
  case isTrue listed =>
    obtain ⟨old, -, rfl⟩ := Option.map_eq_some_iff.mp found
    simp [listed]
  case isFalse unlisted =>
    have before := counts key slot found
    simp only [unlisted, if_false]
    omega

theorem Counts.insert (counts : cache.Counts missed) {entry : Entry} (now : missed entry.path.key = 0) :
    (cache.insert entry).Counts missed := by
  intro key slot found
  rw [slot?_insert] at found
  split at found
  case isTrue same =>
    cases found
    rw [← same, now]
    rfl
  case isFalse => exact counts key slot found

theorem Counts.remove (counts : cache.Counts missed) (path : Path) : (cache.remove path).Counts missed := by
  intro key slot found
  rw [slot?_remove] at found
  split at found
  · cases found
  · exact counts key slot found

theorem Counts.removeAll (counts : cache.Counts missed) (paths : List Path) :
    (cache.removeAll paths).Counts missed := by
  intro key slot found
  rw [slot?_removeAll] at found
  rw [generation_removeAll]
  split at found
  · cases found
  · exact counts key slot found

/-- Only listed files are loaded, and those count as seen. -/
theorem Counts.bringUp (counts : cache.Counts missed) (listed : ∀ path ∈ paths, missed path.key = 0)
    (run : (bringUp supply paths report cache).run world = ((.ok final, after), next)) : after.Counts missed := by
  refine bringUp_invariant (fun _ _ cache _ => cache.Counts missed) ?_ [] counts run
  intro _ path _ cache _ finding _ member counts _ _
  cases finding with
  | loaded modified candidates => exact counts.insert (listed path member)
  | _ => exact counts

theorem missed_of_listed (world : σ) (paths : List Path) (past : History σ) :
    ∀ path ∈ paths, misses path.key (.refresh world paths :: past) = 0 := by
  intro path member
  have listed : path.key ∈ Path.keys paths := List.mem_map_of_mem member
  simp only [misses, listed, if_true]

theorem counts_startRefresh (counts : cache.Counts fun key => misses key past) (world : σ) (paths : List Path) :
    (cache.startRefresh paths).Counts fun key => misses key (.refresh world paths :: past) :=
  counts.startRefresh paths

theorem counts_cacheAfter (supply : Supply (StateM σ)) (policy : Eviction) (history : History σ) :
    (cacheAfter supply policy history).Counts fun key => misses key history := by
  induction history with
  | nil =>
    intro key slot found
    simp [cacheAfter] at found
  | cons request past ih =>
    cases request with
    | insert entry =>
      have seen : ((cacheAfter supply policy past).insert entry).Counts fun key =>
          misses key (.insert entry :: past) := by
        intro key slot found
        rw [slot?_insert] at found
        split at found
        case isTrue same =>
          cases found
          simp only [misses, same, if_true]
          rfl
        case isFalse different =>
          simp only [misses, different, if_false]
          exact ih key slot found
      exact seen
    | refresh world paths =>
      have started := counts_startRefresh ih world paths
      have listed := missed_of_listed world paths past
      obtain ⟨looked, rest, _, ready, _, dropped, split, looks, after, -⟩ :=
        refresh_cases supply paths (cacheAfter supply policy past) world
      rw [cacheAfter, Request.serve, after]
      have inList : ∀ path ∈ looked, path ∈ paths := fun path member => by
        rw [split]
        exact List.mem_append_left _ member
      exact (started.bringUp (fun path member => listed path (inList path member)) looks).removeAll dropped
    | remove path => exact ih.remove path
    | clear =>
      intro key slot found
      simp [cacheAfter, Request.serve] at found

theorem idlePaths_eq (sound : cache.Sound) (counts : cache.Counts missed) :
    cache.idlePaths = cache.order.filter fun path => cache.policy.limit?.any (· ≤ missed path.key) := by
  unfold idlePaths
  cases cache.policy.limit? with
  | none => simp
  | some limit =>
    apply List.filter_congr
    intro path member
    obtain ⟨slot, found⟩ := Option.isSome_iff_exists.mp ((sound.listed path.key).mp (List.mem_map_of_mem member))
    have idleness : cache.generation - slot.lastSeen = missed path.key := by
      have count := counts path.key slot found
      omega
    simp [idleness?_eq_slot, found, idleness]

theorem mem_keys_idlePaths (sound : cache.Sound) (counts : cache.Counts missed) (key : Path.Key) :
    key ∈ Path.keys cache.idlePaths ↔
      key ∈ Path.keys cache.order ∧ cache.policy.limit?.any (· ≤ missed key) = true := by
  rw [idlePaths_eq sound counts]
  simp only [Path.keys, List.mem_map, List.mem_filter]
  constructor
  · rintro ⟨other, ⟨there, due⟩, same⟩
    exact ⟨⟨other, there, same⟩, same ▸ due⟩
  · rintro ⟨⟨other, there, same⟩, due⟩
    exact ⟨other, ⟨there, same ▸ due⟩, same⟩

theorem contains_removeAll_idle (sound : cache.Sound) (counts : cache.Counts missed) (path : Path) :
    (cache.removeAll cache.idlePaths).contains path = true ↔
      cache.contains path = true ∧ cache.policy.limit?.any (· ≤ missed path.key) = false := by
  have idle := mem_keys_idlePaths sound counts path.key
  rw [sound.contains, contains_eq_slot, slot?_removeAll, sound.listed]
  rw [sound.listed] at idle
  by_cases gone : path.key ∈ Path.keys cache.idlePaths
  · simp [gone, idle.mp gone]
  · cases found : cache.slot? path.key <;> simp_all

/-- What a refresh drops, if it drops what that many refreshes have missed. -/
structure DropsExactly (limit : Nat) (missed : Path.Key → Nat) (paths : List Path) (cache : Cache) (report : Report)
    (after : Cache) : Prop where
  reported : report.evicted = cache.order.filter fun path => limit ≤ missed path.key
  dropped : ∀ path, cache.contains path = true → (after.contains path = false ↔ limit ≤ missed path.key)
  loaded : ∀ load ∈ report.loaded, after.contains load.1 = true
  remaining : ∀ path, after.contains path = true → missed path.key < limit
  listed : ∀ path ∈ report.evicted, path.key ∉ Path.keys paths

def Keeps (cache after : Cache) : Prop := ∀ path, cache.contains path = true → after.contains path = true

theorem drops_exactly {refreshes : UInt32} (sound : cache.Sound) (policy : cache.policy = .idle refreshes)
    (counts : (cache.startRefresh paths).Counts missed) (listed : ∀ path ∈ paths, missed path.key = 0)
    (run : ((refresh supply paths cache).run world).1 = (.ok final, after)) :
    DropsExactly (max refreshes.toNat 1) missed paths cache final after := by
  obtain ⟨report, ready, _, looks, rfl, rfl⟩ := refresh_ok_cases run
  have readySound := (sound.startRefresh paths).bringUp looks
  have readyCounts := counts.bringUp listed looks
  have limit : ready.policy.limit? = some (max refreshes.toNat 1) := by
    have kept : ready.policy = .idle refreshes :=
      bringUp_keeps (·.policy = .idle refreshes) (fun _ _ kept => kept) (by simpa using policy) looks
    rw [kept]
    rfl
  have left : ∀ path, (ready.removeAll ready.idlePaths).contains path = true ↔
      ready.contains path = true ∧ ¬ max refreshes.toNat 1 ≤ missed path.key := by
    intro path
    rw [contains_removeAll_idle readySound readyCounts, limit]
    simp
  obtain ⟨new, order, inside⟩ := order_bringUp looks
  have reported : ready.idlePaths = cache.order.filter fun path => max refreshes.toNat 1 ≤ missed path.key := by
    have fresh : (new.filter fun path => decide (max refreshes.toNat 1 ≤ missed path.key)) = [] := by
      refine List.filter_eq_nil_iff.mpr fun path member => ?_
      rw [listed path (inside.subset member)]
      simp
    rw [idlePaths_eq readySound readyCounts, limit, order, order_startRefresh, List.filter_append]
    simpa using fresh
  constructor
  · exact reported
  · intro path there
    have kept : ready.contains path = true := contains_bringUp looks (by simpa using there)
    have iff := left path
    simp only [kept, true_and] at iff
    rw [← Bool.not_eq_true, iff, not_not]
  · intro load member
    obtain ⟨inList, there⟩ := loaded_bringUp looks load member
    refine (left load.1).mpr ⟨there, ?_⟩
    rw [listed load.1 inList]
    simp
  · intro path there
    exact Nat.lt_of_not_le ((left path).mp there).2
  · intro path member there
    obtain ⟨other, inList, same⟩ := List.mem_map.mp there
    have due := (List.mem_filter.mp (reported ▸ member)).2
    rw [← same, listed other inList] at due
    simp at due

theorem keeps_of_retain (policy : cache.policy = .retain)
    (run : ((refresh supply paths cache).run world).1 = (.ok final, after)) :
    final.evicted = [] ∧ Keeps cache after := by
  obtain ⟨report, ready, _, looks, rfl, rfl⟩ := refresh_ok_cases run
  have kept : ready.policy = .retain :=
    bringUp_keeps (·.policy = .retain) (fun _ _ kept => kept) (by simpa using policy) looks
  have none : ready.idlePaths = [] := by
    rw [idlePaths, kept]
    rfl
  refine ⟨none, fun path there => ?_⟩
  rw [none]
  exact contains_bringUp looks (by simpa using there)

theorem keeps_of_error {error : Error}
    (run : ((refresh supply paths cache).run world).1 = (.error error, after)) :
    error.progress.evicted = [] ∧ Keeps cache after := by
  have failed : (refresh supply paths cache).run world =
      ((.error error, after), ((refresh supply paths cache).run world).2) := Prod.ext run rfl
  obtain ⟨_, _, _, _, looks, -⟩ := bringUp_error (refresh_error.mp failed)
  exact ⟨evicted_bringUp looks, fun path there => contains_bringUp looks (by simpa using there)⟩

/-- After any requests, a refresh drops the files that as many refreshes in a row have missed as the
    policy says, this one and those that failed among them, and it drops nothing else. -/
theorem idle_files_dropped (supply : Supply (StateM σ)) (policy : Eviction) (past : History σ) (world : σ)
    (paths : List Path) :
    let cache := cacheAfter supply policy past
    let missed := fun key => misses key (.refresh world paths :: past)
    match policy, ((refresh supply paths cache).run world).1 with
    | .idle refreshes, (.ok report, after) =>
      DropsExactly (max refreshes.toNat 1) missed paths cache report after
    | .retain, (.ok report, after) => report.evicted = [] ∧ Keeps cache after
    | _, (.error error, after) => error.progress.evicted = [] ∧ Keeps cache after := by
  intro cache missed
  have kept : cache.policy = policy := policy_cacheAfter past
  have counts : (cache.startRefresh paths).Counts missed :=
    counts_startRefresh (counts_cacheAfter supply policy past) world paths
  rcases run : ((refresh supply paths cache).run world).1 with ⟨error | report, after⟩
  · cases policy <;> exact keeps_of_error run
  · cases policy with
    | retain => exact keeps_of_retain kept run
    | idle refreshes =>
      exact drops_exactly (sound_cacheAfter supply _ past) kept counts (missed_of_listed world paths past) run

end TagMenu.Cache
