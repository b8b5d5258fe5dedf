import Mathlib
import TagMenu.Proofs.Cache.History

namespace TagMenu.Cache

/-- The order holds the files that have slots, each of them once; slots hold entries of their own
    files, and have not been seen by refreshes to come. -/
structure Sound (cache : Cache) : Prop where
  distinct : (Path.keys cache.order).Nodup
  listed : ∀ key, key ∈ Path.keys cache.order ↔ (cache.slot? key).isSome = true
  filed : ∀ key slot, cache.slot? key = some slot → slot.entry.path.key = key
  seen : ∀ key slot, cache.slot? key = some slot → slot.lastSeen ≤ cache.generation

variable {σ : Type} {supply : Supply (StateM σ)} {cache after : Cache} {paths : List Path} {report final : Report}
  {world next : σ}

theorem Sound.empty (policy : Eviction) : ({ policy } : Cache).Sound := by
  constructor <;> simp

theorem Sound.clear (cache : Cache) : cache.clear.Sound := by
  constructor <;> simp [Cache.clear, slot?]

theorem Sound.contains (sound : cache.Sound) (path : Path) :
    cache.contains path = true ↔ path.key ∈ Path.keys cache.order := by
  rw [contains_eq_slot, sound.listed]

theorem Sound.startRefresh (sound : cache.Sound) (paths : List Path) : (cache.startRefresh paths).Sound := by
  have split : ∀ key slot, (cache.startRefresh paths).slot? key = some slot →
      ∃ old, cache.slot? key = some old ∧ slot.entry = old.entry ∧
        (slot.lastSeen = cache.generation + 1 ∨ slot.lastSeen = old.lastSeen) := by
    intro key slot found
    rw [slot?_startRefresh] at found
    split at found
    · obtain ⟨old, there, rfl⟩ := Option.map_eq_some_iff.mp found
      exact ⟨old, there, rfl, .inl rfl⟩
    · exact ⟨slot, found, rfl, .inr rfl⟩
  constructor
  · simpa using sound.distinct
  · intro key
    rw [order_startRefresh, sound.listed, slot?_startRefresh]
    split <;> simp
  · intro key slot found
    obtain ⟨old, there, same, -⟩ := split key slot found
    rw [same]
    exact sound.filed key old there
  · intro key slot found
    obtain ⟨old, there, -, now | before⟩ := split key slot found
    · simp [now]
    · have bound := sound.seen key old there
      rw [generation_startRefresh, before]
      omega

theorem Sound.insert (sound : cache.Sound) (entry : Entry) : (cache.insert entry).Sound := by
  have slots : ∀ key slot, (cache.insert entry).slot? key = some slot →
      (entry.path.key = key ∧ slot = ⟨entry, cache.generation⟩) ∨ cache.slot? key = some slot := by
    intro key slot found
    rw [slot?_insert] at found
    split at found
    · exact .inl ⟨by assumption, (Option.some.inj found).symm⟩
    · exact .inr found
  constructor
  · by_cases present : cache.contains entry.path = true
    · simpa [Cache.insert, present] using sound.distinct
    · have absent : entry.path.key ∉ Path.keys cache.order := fun there => present ((sound.contains _).mpr there)
      simp only [Cache.insert, present, Bool.false_eq_true, if_false, Path.keys, List.map_append, List.map_cons,
        List.map_nil]
      exact List.nodup_append.mpr ⟨sound.distinct, by simp, by
        intro key there other last
        rw [List.mem_singleton] at last
        subst last
        exact fun same => absent (same ▸ there)⟩
  · intro key
    rw [slot?_insert]
    by_cases present : cache.contains entry.path = true
    · have there := (sound.contains _).mp present
      by_cases same : entry.path.key = key
      · subst same
        simpa [Cache.insert, present] using there
      · simpa [Cache.insert, present, same] using sound.listed key
    · by_cases same : entry.path.key = key
      · simp [Cache.insert, present, same]
      · simpa [Cache.insert, present, same, Ne.symm same] using sound.listed key
  · intro key slot found
    rcases slots key slot found with ⟨same, rfl⟩ | there
    · exact same
    · exact sound.filed key slot there
  · intro key slot found
    rcases slots key slot found with ⟨-, rfl⟩ | there
    · exact Nat.le_refl _
    · exact sound.seen key slot there

theorem Sound.remove (sound : cache.Sound) (path : Path) : (cache.remove path).Sound := by
  have slots : ∀ key slot, (cache.remove path).slot? key = some slot → cache.slot? key = some slot := by
    intro key slot found
    rw [slot?_remove] at found
    split at found
    · cases found
    · exact found
  constructor
  · exact (List.filter_sublist.map Path.key).nodup sound.distinct
  · intro key
    rw [slot?_remove]
    have member : key ∈ Path.keys (cache.remove path).order ↔ key ∈ Path.keys cache.order ∧ key ≠ path.key := by
      simp only [Cache.remove, Path.keys, List.mem_map, List.mem_filter, Path.same]
      constructor
      · rintro ⟨other, ⟨there, different⟩, rfl⟩
        exact ⟨⟨other, there, rfl⟩, by simpa using different⟩
      · rintro ⟨⟨other, there, rfl⟩, different⟩
        exact ⟨other, ⟨there, by simpa using different⟩, rfl⟩
    rw [member, sound.listed]
    by_cases same : path.key = key
    · simp [same]
    · simp [same, Ne.symm same]
  · exact fun key slot found => sound.filed key slot (slots key slot found)
  · exact fun key slot found => sound.seen key slot (slots key slot found)

theorem sound_cacheAfter (supply : Supply (StateM σ)) (policy : Eviction) (history : History σ) :
    (cacheAfter supply policy history).Sound :=
  cacheAfter_keeps Sound (.empty policy) (fun _ paths sound => sound.startRefresh paths)
    (fun _ entry sound => sound.insert entry) (fun _ path sound => sound.remove path) (fun cache _ => .clear cache)
    history

theorem order_insert (cache : Cache) (entry : Entry) :
    (cache.insert entry).order = cache.order ++ if cache.contains entry.path then [] else [entry.path] := by
  by_cases present : cache.contains entry.path = true <;> simp [Cache.insert, present]

theorem Sound.bringUp (sound : cache.Sound)
    (run : (bringUp supply paths report cache).run world = ((.ok final, after), next)) : after.Sound :=
  bringUp_keeps Sound (fun _ entry sound => sound.insert entry) sound run

theorem order_bringUp (run : (bringUp supply paths report cache).run world = ((.ok final, after), next)) :
    ∃ new, after.order = cache.order ++ new ∧ new.Sublist paths := by
  refine bringUp_invariant (fun done _ after _ => ∃ new, after.order = cache.order ++ new ∧ new.Sublist done)
    ?_ [] ⟨[], by simp⟩ run
  rintro done path _ middle _ finding _ _ ⟨new, order, inside⟩ _ _
  cases finding with
  | loaded modified candidates =>
    refine ⟨new ++ if middle.contains path then [] else [path], ?_, inside.append ?_⟩
    · rw [Finding.storeIn, order_insert, order, List.append_assoc]
    · split <;> simp
  | _ => exact ⟨new, order, inside.trans (List.sublist_append_left _ _)⟩

theorem contains_insert (cache : Cache) (entry : Entry) (path : Path) :
    (cache.insert entry).contains path = true ↔ entry.path.key = path.key ∨ cache.contains path = true := by
  rw [contains_eq_slot, contains_eq_slot, slot?_insert]
  split <;> simp_all

theorem contains_bringUp (run : (bringUp supply paths report cache).run world = ((.ok final, after), next))
    {path : Path} (there : cache.contains path = true) : after.contains path = true :=
  bringUp_keeps (fun cache => cache.contains path = true)
    (fun cache entry there => (contains_insert cache entry path).mpr (.inr there)) there run

theorem loaded_bringUp (run : (bringUp supply paths {} cache).run world = ((.ok final, after), next)) :
    ∀ load ∈ final.loaded, load.1 ∈ paths ∧ after.contains load.1 = true := by
  refine bringUp_invariant
    (fun done report cache _ => ∀ load ∈ report.loaded, load.1 ∈ done ∧ cache.contains load.1 = true)
    ?_ [] (by simp) run
  intro done path report cache _ finding _ _ there _ _
  have earlier : ∀ load ∈ report.loaded, load.1 ∈ done ++ [path] ∧ cache.contains load.1 = true :=
    fun load member => ⟨List.mem_append_left _ (there load member).1, (there load member).2⟩
  cases finding with
  | loaded modified candidates =>
    intro load member
    rw [Finding.storeIn, contains_insert]
    rcases List.mem_append.mp member with member | member
    · exact ⟨(earlier load member).1, .inr (earlier load member).2⟩
    · rw [List.mem_singleton.mp member]
      exact ⟨by simp, .inl rfl⟩
  | _ => exact earlier

theorem evicted_bringUp (run : (bringUp supply paths report cache).run world = ((.ok final, after), next)) :
    final.evicted = report.evicted := by
  refine bringUp_invariant (fun _ now _ _ => now.evicted = report.evicted) ?_ [] rfl run
  intro _ path now _ _ finding _ _ same _ _
  cases finding <;> exact same

end TagMenu.Cache
