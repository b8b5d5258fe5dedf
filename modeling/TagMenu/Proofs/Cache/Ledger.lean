import Mathlib
import TagMenu.Cache.Snapshot
import TagMenu.Proofs.Cache.Idle

namespace TagMenu.Cache

abbrev Ledger := List (Path × Entry)

namespace Ledger

def get? (ledger : Ledger) (path : Path) : Option Entry := (ledger.find? (·.1.same path)).map (·.2)

def contains (ledger : Ledger) (path : Path) : Bool := ledger.any (·.1.same path)

def insert (ledger : Ledger) (entry : Entry) : Ledger :=
  if ledger.contains entry.path then ledger.map fun row => if row.1.same entry.path then (row.1, entry) else row
  else ledger ++ [(entry.path, entry)]

def remove (ledger : Ledger) (path : Path) : Ledger := ledger.filter fun row => !row.1.same path

def bringUp {m : Type → Type} [Monad m] (supply : Supply m) : List Path → Ledger → m (Bool × Ledger)
  | [], ledger => return (true, ledger)
  | path :: rest, ledger => do
    match ← look supply path (ledger.get? path) with
    | .refused _ => return (false, ledger)
    | .loaded modified candidates => bringUp supply rest (ledger.insert ⟨path, modified, candidates⟩)
    | _ => bringUp supply rest ledger

def dropIdle (policy : Eviction) (missed : Path.Key → Nat) (ledger : Ledger) : Ledger :=
  ledger.filter fun row => !policy.limit?.any (· ≤ missed row.1.key)

end Ledger

def ledgerAfter {σ : Type} (supply : Supply (StateM σ)) (policy : Eviction) : History σ → Ledger
  | [] => []
  | .insert entry :: past => (ledgerAfter supply policy past).insert entry
  | .remove path :: past => (ledgerAfter supply policy past).remove path
  | .clear :: _ => []
  | .refresh world paths :: past =>
    match ((Ledger.bringUp supply paths (ledgerAfter supply policy past)).run world).1 with
    | (true, ledger) => ledger.dropIdle policy fun key => misses key (.refresh world paths :: past)
    | (false, ledger) => ledger

/-- The list has the files of the cache in their order, with their entries. -/
structure Mirrors (cache : Cache) (ledger : Ledger) : Prop where
  order : ledger.map (·.1) = cache.order
  entries : ∀ row ∈ ledger, cache.get? row.1 = some row.2

variable {σ : Type} {supply : Supply (StateM σ)} {cache after : Cache} {ledger : Ledger} {paths : List Path}
  {report final : Report} {world next : σ}

theorem Mirrors.contains (mirrors : cache.Mirrors ledger) (sound : cache.Sound) (path : Path) :
    cache.contains path = ledger.contains path := by
  rw [Bool.eq_iff_iff, sound.contains, ← mirrors.order, Ledger.contains]
  simp [Path.same_iff]

theorem Mirrors.get? (mirrors : cache.Mirrors ledger) (sound : cache.Sound) (path : Path) :
    cache.get? path = ledger.get? path := by
  unfold Ledger.get?
  cases found : ledger.find? (·.1.same path) with
  | some row =>
    have same : row.1.key = path.key := by simpa [Path.same_iff] using List.find?_some found
    rw [← cache.get?_congr same, mirrors.entries row (List.mem_of_find?_eq_some found)]
    rfl
  | none =>
    have absent : cache.contains path = false := by
      rw [mirrors.contains sound, Ledger.contains, List.any_eq_false]
      exact List.find?_eq_none.mp found
    rw [contains_eq_get?, Option.isSome_eq_false_iff, Option.isNone_iff_eq_none] at absent
    exact absent

theorem Sound.keys_perm (sound : cache.Sound) : cache.slots.keys.Perm (Path.keys cache.order) := by
  refine (List.perm_ext_iff_of_nodup Std.HashMap.nodup_keys sound.distinct).mpr fun key => ?_
  rw [Std.HashMap.mem_keys, sound.listed, slot?, Std.HashMap.mem_iff_isSome_getElem?]

theorem Sound.size (sound : cache.Sound) : cache.size = cache.order.length := by
  rw [Cache.size, ← Std.HashMap.length_keys, sound.keys_perm.length_eq, List.length_map]

theorem Sound.isEmpty (sound : cache.Sound) : cache.isEmpty = cache.order.isEmpty := by
  have size := sound.size
  rw [Cache.size] at size
  rw [Cache.isEmpty, Std.HashMap.isEmpty_eq_size_eq_zero, size]
  cases cache.order <;> rfl

theorem Mirrors.snapshot (mirrors : cache.Mirrors ledger) : cache.entries = ledger.map (·.2) := by
  rw [Cache.entries, ← mirrors.order, List.filterMap_map, ← List.filterMap_eq_map]
  apply List.filterMap_congr
  intro row member
  exact mirrors.entries row member

theorem sum_filterMap {α β : Type} (pick : α → Option β) (weight : β → Nat) (items : List α) :
    ((items.filterMap pick).map weight).sum = (items.map fun item => ((pick item).map weight).getD 0).sum := by
  induction items with
  | nil => rfl
  | cons item rest ih => cases found : pick item <;> simp [found, ih]

theorem Sound.total (sound : cache.Sound) : cache.total = (cache.entries.map (·.candidates.length)).sum := by
  let weight (key : Path.Key) := ((cache.slot? key).map (·.entry.candidates.length)).getD 0
  have slots :
      cache.slots.toList.map (fun slot => slot.2.entry.candidates.length) = cache.slots.keys.map weight := by
    rw [← Std.HashMap.map_fst_toList_eq_keys, List.map_map]
    refine List.map_congr_left fun slot member => ?_
    have found : cache.slot? slot.1 = some slot.2 := Std.HashMap.mem_toList_iff_getElem?_eq_some.mp member
    simp [weight, found]
  calc cache.total
      = (cache.slots.toList.map fun slot => slot.2.entry.candidates.length).sum := by
        rw [Cache.total, Std.HashMap.fold_eq_foldl_toList, List.sum_eq_foldl, List.foldl_map]
    _ = (cache.slots.keys.map weight).sum := by rw [slots]
    _ = ((Path.keys cache.order).map weight).sum := (sound.keys_perm.map weight).sum_eq
    _ = (cache.entries.map (·.candidates.length)).sum := by
        rw [Cache.entries, sum_filterMap, List.map_map]
        simp only [get?_eq_slot, Option.map_map]
        rfl

theorem Mirrors.empty (policy : Eviction) : ({ policy } : Cache).Mirrors [] := ⟨rfl, by simp⟩

theorem Mirrors.clear (cache : Cache) : cache.clear.Mirrors [] := ⟨rfl, by simp⟩

theorem Mirrors.startRefresh (mirrors : cache.Mirrors ledger) (paths : List Path) :
    (cache.startRefresh paths).Mirrors ledger :=
  ⟨by rw [order_startRefresh, mirrors.order], fun row member => by
    rw [get?_startRefresh, mirrors.entries row member]⟩

theorem Mirrors.insert (mirrors : cache.Mirrors ledger) (sound : cache.Sound) (entry : Entry) :
    (cache.insert entry).Mirrors (ledger.insert entry) := by
  have present := mirrors.contains sound entry.path
  unfold Ledger.insert
  split
  case isTrue there =>
    constructor
    · rw [order_insert, present, there, List.map_map, ← mirrors.order]
      simp only [if_true, List.append_nil]
      refine List.map_congr_left fun row _ => ?_
      simp only [Function.comp]
      split <;> rfl
    · intro row member
      obtain ⟨old, inside, rfl⟩ := List.mem_map.mp member
      rw [get?_insert]
      by_cases same : old.1.same entry.path = true
      · have key := (Path.same_iff _ _).mp same
        simp [same, key]
      · have key : entry.path.key ≠ old.1.key := fun equal => same ((Path.same_iff _ _).mpr equal.symm)
        simp [same, key, mirrors.entries old inside]
  case isFalse absent =>
    constructor
    · rw [order_insert, present, List.map_append, mirrors.order]
      simp [absent]
    · intro row member
      rw [get?_insert]
      rcases List.mem_append.mp member with inside | last
      · have key : entry.path.key ≠ row.1.key := by
          intro equal
          apply absent
          exact List.any_eq_true.mpr ⟨row, inside, (Path.same_iff _ _).mpr equal.symm⟩
        simp [key, mirrors.entries row inside]
      · rw [List.mem_singleton.mp last]
        simp

theorem Mirrors.remove (mirrors : cache.Mirrors ledger) (path : Path) :
    (cache.remove path).Mirrors (ledger.remove path) := by
  constructor
  · rw [Ledger.remove, Cache.remove, ← mirrors.order, List.filter_map]
    rfl
  · intro row member
    obtain ⟨inside, different⟩ := List.mem_filter.mp member
    have key : path.key ≠ row.1.key := by
      intro equal
      rw [(Path.same_iff _ _).mpr equal.symm] at different
      cases different
    rw [get?_remove, if_neg key, mirrors.entries row inside]

theorem Mirrors.dropIdle {missed : Path.Key → Nat} (mirrors : cache.Mirrors ledger) (sound : cache.Sound)
    (counts : cache.Counts missed) :
    (cache.removeAll cache.idlePaths).Mirrors (ledger.dropIdle cache.policy missed) := by
  have listed : ∀ row ∈ ledger, row.1.key ∈ Path.keys cache.order := fun row inside => by
    rw [← mirrors.order]
    exact List.mem_map_of_mem (List.mem_map_of_mem inside)
  have kept : ∀ row ∈ ledger, row.1.key ∉ Path.keys cache.idlePaths ↔
      cache.policy.limit?.any (· ≤ missed row.1.key) = false := fun row inside => by
    rw [mem_keys_idlePaths sound counts]
    simp [listed row inside]
  constructor
  · rw [order_removeAll, Ledger.dropIdle, ← mirrors.order, List.filter_map]
    refine congrArg _ (List.filter_congr fun row inside => ?_)
    rw [Bool.eq_iff_iff, Function.comp, decide_eq_true_eq, kept row inside, Bool.not_eq_true']
  · intro row member
    obtain ⟨inside, spared⟩ := List.mem_filter.mp member
    rw [Bool.not_eq_true'] at spared
    rw [get?_removeAll, if_neg ((kept row inside).mpr spared), mirrors.entries row inside]

theorem Ledger.bringUp_cons (path : Path) (rest : List Path) :
    (Ledger.bringUp supply (path :: rest) ledger).run world =
      match (look supply path (ledger.get? path)).run world with
      | (.refused _, next) => ((false, ledger), next)
      | (.loaded modified candidates, next) =>
        (Ledger.bringUp supply rest (ledger.insert ⟨path, modified, candidates⟩)).run next
      | (_, next) => (Ledger.bringUp supply rest ledger).run next := by
  rw [Ledger.bringUp, run_bind]
  rcases (look supply path (ledger.get? path)).run world with ⟨finding, next⟩
  cases finding <;> rfl

theorem Mirrors.bringUp (mirrors : cache.Mirrors ledger) (sound : cache.Sound) (supply : Supply (StateM σ))
    (paths : List Path) (report : Report) (world : σ) :
    ((Ledger.bringUp supply paths ledger).run world).1.1 =
        ((bringUp supply paths report cache).run world).1.1.isOk ∧
      ((bringUp supply paths report cache).run world).1.2.Mirrors
        ((Ledger.bringUp supply paths ledger).run world).1.2 := by
  induction paths generalizing cache ledger report world with
  | nil => exact ⟨rfl, mirrors⟩
  | cons path rest ih =>
    rw [Ledger.bringUp_cons, Cache.bringUp_cons, ← mirrors.get? sound]
    rcases (look supply path (cache.get? path)).run world with ⟨finding, next⟩
    cases finding with
    | missing => exact ih mirrors sound _ next
    | current => exact ih mirrors sound _ next
    | loaded modified candidates => exact ih (mirrors.insert sound _) (sound.insert _) _ next
    | refused cause => exact ⟨rfl, mirrors⟩

theorem mirrors_cacheAfter (supply : Supply (StateM σ)) (policy : Eviction) (history : History σ) :
    (cacheAfter supply policy history).Mirrors (ledgerAfter supply policy history) := by
  induction history with
  | nil => exact .empty policy
  | cons request past ih =>
    have sound := sound_cacheAfter supply policy past
    cases request with
    | insert entry => exact ih.insert sound entry
    | remove path => exact ih.remove path
    | clear => exact .clear _
    | refresh world paths =>
      have counts := counts_startRefresh (counts_cacheAfter supply policy past) world paths
      obtain ⟨accepted, ready⟩ := (ih.startRefresh paths).bringUp (sound.startRefresh paths) supply paths {} world
      show (((cacheAfter supply policy past).refresh supply paths).run world).1.2.Mirrors _
      rw [ledgerAfter]
      rcases kept : ((Ledger.bringUp supply paths (ledgerAfter supply policy past)).run world).1 with ⟨done, list⟩
      rcases looks : (bringUp supply paths {} ((cacheAfter supply policy past).startRefresh paths)).run world with
        ⟨⟨error | report, after⟩, next⟩ <;> simp only [kept, looks] at accepted ready
      · obtain rfl : done = false := accepted
        rw [refresh_error.mpr looks]
        exact ready
      · obtain rfl : done = true := accepted
        rw [refresh_ok looks]
        -- What is dropped goes by the counts after the refresh, and those count its own list.
        have policyKept : after.policy = policy :=
          bringUp_keeps (·.policy = policy) (fun _ _ kept => kept) (by simp [policy_cacheAfter]) looks
        simpa only [policyKept] using ready.dropIdle ((sound.startRefresh paths).bringUp looks)
          (counts.bringUp (missed_of_listed world paths past) looks)

structure Shows (cache : Cache) (ledger : Ledger) : Prop where
  get? : ∀ path, cache.get? path = ledger.get? path
  contains : ∀ path, cache.contains path = ledger.contains path
  size : cache.size = ledger.length
  isEmpty : cache.isEmpty = ledger.isEmpty
  paths : cache.paths = ledger.map (·.1)
  snapshot : cache.snapshot.entries = ledger.map (·.2)
  total : cache.total = (ledger.map (·.2.candidates.length)).sum

theorem Mirrors.shows (mirrors : cache.Mirrors ledger) (sound : cache.Sound) : cache.Shows ledger := by
  constructor
  · exact mirrors.get? sound
  · exact mirrors.contains sound
  · rw [sound.size, ← mirrors.order, List.length_map]
  · rw [sound.isEmpty, ← mirrors.order, List.isEmpty_map]
  · exact mirrors.order.symm
  · exact mirrors.snapshot
  · rw [sound.total, mirrors.snapshot, List.map_map]
    rfl

/-- After any requests, the parts of a cache agree with each other, and all that can be seen of it is
    what the list says. -/
theorem cache_is_list (supply : Supply (StateM σ)) (policy : Eviction) (history : History σ) :
    let cache := cacheAfter supply policy history
    cache.Sound ∧ cache.generation = refreshes history ∧ cache.Shows (ledgerAfter supply policy history) ∧
      cache.size = cache.paths.length ∧ cache.size = cache.snapshot.size ∧
      cache.total = cache.snapshot.candidates.length := by
  intro cache
  have sound : cache.Sound := sound_cacheAfter supply policy history
  have mirrors : cache.Mirrors (ledgerAfter supply policy history) := mirrors_cacheAfter supply policy history
  have listed : (ledgerAfter supply policy history).length = cache.order.length := by
    rw [← mirrors.order, List.length_map]
  refine ⟨sound, generation_cacheAfter history, mirrors.shows sound, sound.size, ?_, ?_⟩
  · rw [sound.size, Snapshot.size, snapshot, mirrors.snapshot, List.length_map, listed]
  · rw [sound.total, Snapshot.candidates, snapshot, List.length_flatMap]

end TagMenu.Cache
