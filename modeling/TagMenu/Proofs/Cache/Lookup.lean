import Mathlib
import TagMenu.Cache.Refresh

namespace TagMenu

theorem Path.same_iff (left right : Path) : left.same right = true ↔ left.key = right.key := by
  simp [Path.same]

abbrev Path.keys (paths : List Path) : List Path.Key := paths.map Path.key

namespace Cache

def slot? (cache : Cache) (key : Path.Key) : Option Slot := cache.slots[key]?

theorem get?_eq_slot (cache : Cache) (path : Path) :
    cache.get? path = (cache.slot? path.key).map (·.entry) := by
  simp [get?, slot?]

theorem contains_eq_slot (cache : Cache) (path : Path) :
    cache.contains path = (cache.slot? path.key).isSome := by
  rw [contains, slot?, Std.HashMap.contains_eq_isSome_getElem?]

theorem contains_eq_get? (cache : Cache) (path : Path) : cache.contains path = (cache.get? path).isSome := by
  simp [contains_eq_slot, get?_eq_slot]

theorem idleness?_eq_slot (cache : Cache) (path : Path) :
    cache.idleness? path = (cache.slot? path.key).map fun slot => cache.generation - slot.lastSeen := by
  simp [idleness?, slot?]

theorem get?_congr (cache : Cache) {left right : Path} (same : left.key = right.key) :
    cache.get? left = cache.get? right := by
  simp only [get?_eq_slot, same]

@[simp] theorem slot?_empty (policy : Eviction) (key : Path.Key) :
    ({ policy } : Cache).slot? key = none := by
  simp [slot?]

@[simp] theorem slot?_insert (cache : Cache) (entry : Entry) (key : Path.Key) :
    (cache.insert entry).slot? key =
      if entry.path.key = key then some ⟨entry, cache.generation⟩ else cache.slot? key := by
  simp [insert, slot?, Std.HashMap.getElem?_insert]

@[simp] theorem slot?_remove (cache : Cache) (path : Path) (key : Path.Key) :
    (cache.remove path).slot? key = if path.key = key then none else cache.slot? key := by
  simp [remove, slot?, Std.HashMap.getElem?_erase]

@[simp] theorem slot?_clear (cache : Cache) (key : Path.Key) : cache.clear.slot? key = none := by
  simp [clear, slot?]

@[simp] theorem slot?_see (cache : Cache) (path : Path) (key : Path.Key) :
    (cache.see path).slot? key =
      if path.key = key then (cache.slot? key).map ({ · with lastSeen := cache.generation })
      else cache.slot? key := by
  by_cases same : path.key = key
  · subst same
    cases found : cache.slots[path.key]? <;> simp [see, slot?, found]
  · cases found : cache.slots[path.key]? <;>
      simp [see, slot?, found, same, Std.HashMap.getElem?_insert]

@[simp] theorem generation_see (cache : Cache) (path : Path) :
    (cache.see path).generation = cache.generation := by
  unfold see
  split <;> rfl

theorem slot?_sees (cache : Cache) (paths : List Path) (key : Path.Key) :
    (paths.foldl see cache).slot? key =
      if key ∈ Path.keys paths then (cache.slot? key).map ({ · with lastSeen := cache.generation })
      else cache.slot? key := by
  induction paths generalizing cache with
  | nil => simp
  | cons path rest ih =>
    rw [List.foldl_cons, ih, slot?_see, generation_see]
    by_cases same : path.key = key
    · subst same
      by_cases later : path.key ∈ Path.keys rest <;> simp [later, Function.comp_def]
    · simp [same, Ne.symm same]

@[simp] theorem slot?_startRefresh (cache : Cache) (paths : List Path) (key : Path.Key) :
    (cache.startRefresh paths).slot? key =
      if key ∈ Path.keys paths then (cache.slot? key).map ({ · with lastSeen := cache.generation + 1 })
      else cache.slot? key :=
  slot?_sees { cache with generation := cache.generation + 1 } paths key

@[simp] theorem slot?_removeAll (cache : Cache) (paths : List Path) (key : Path.Key) :
    (cache.removeAll paths).slot? key = if key ∈ Path.keys paths then none else cache.slot? key := by
  unfold removeAll
  induction paths generalizing cache with
  | nil => simp
  | cons path rest ih =>
    rw [List.foldl_cons, ih, slot?_remove]
    by_cases same : path.key = key
    · simp [same]
    · simp [same, Ne.symm same]

@[simp] theorem get?_empty (policy : Eviction) (path : Path) : ({ policy } : Cache).get? path = none := by
  simp [get?_eq_slot]

@[simp] theorem get?_insert (cache : Cache) (entry : Entry) (path : Path) :
    (cache.insert entry).get? path = if entry.path.key = path.key then some entry else cache.get? path := by
  simp only [get?_eq_slot, slot?_insert]
  split <;> rfl

@[simp] theorem get?_remove (cache : Cache) (gone path : Path) :
    (cache.remove gone).get? path = if gone.key = path.key then none else cache.get? path := by
  simp only [get?_eq_slot, slot?_remove]
  split <;> rfl

@[simp] theorem get?_clear (cache : Cache) (path : Path) : cache.clear.get? path = none := by
  simp [get?_eq_slot]

@[simp] theorem get?_startRefresh (cache : Cache) (paths : List Path) (path : Path) :
    (cache.startRefresh paths).get? path = cache.get? path := by
  simp only [get?_eq_slot, slot?_startRefresh]
  split <;> simp [Function.comp_def]

theorem get?_startRefresh_empty (policy : Eviction) (paths : List Path) (path : Path) :
    (({ policy } : Cache).startRefresh paths).get? path = none := by
  rw [get?_startRefresh, get?_empty]

@[simp] theorem get?_removeAll (cache : Cache) (paths : List Path) (path : Path) :
    (cache.removeAll paths).get? path = if path.key ∈ Path.keys paths then none else cache.get? path := by
  simp only [get?_eq_slot, slot?_removeAll]
  split <;> rfl

@[simp] theorem contains_startRefresh (cache : Cache) (paths : List Path) (path : Path) :
    (cache.startRefresh paths).contains path = cache.contains path := by
  rw [contains_eq_get?, contains_eq_get?, get?_startRefresh]

def Every (P : Entry → Prop) (cache : Cache) : Prop :=
  ∀ path entry, cache.get? path = some entry → entry.path.key = path.key ∧ P entry

namespace Every

variable {P Q : Entry → Prop} {cache after : Cache} {entry : Entry}

theorem imp (every : cache.Every P) (weaker : ∀ entry, P entry → Q entry) : cache.Every Q := by
  intro path entry found
  obtain ⟨same, holds⟩ := every path entry found
  exact ⟨same, weaker entry holds⟩

theorem of_get? (every : cache.Every P)
    (fewer : ∀ path entry, after.get? path = some entry → cache.get? path = some entry) : after.Every P :=
  fun path entry found => every path entry (fewer path entry found)

theorem empty (policy : Eviction) : ({ policy } : Cache).Every P := by
  intro path entry found
  simp at found

theorem insert (every : cache.Every P) (holds : P entry) : (cache.insert entry).Every P := by
  intro path other found
  rw [get?_insert] at found
  split at found
  case isTrue same =>
    cases found
    exact ⟨same, holds⟩
  case isFalse => exact every path other found

theorem startRefresh (every : cache.Every P) (paths : List Path) : (cache.startRefresh paths).Every P :=
  every.of_get? fun path entry found => by rwa [get?_startRefresh] at found

theorem remove (every : cache.Every P) (gone : Path) : (cache.remove gone).Every P := by
  refine every.of_get? fun path entry found => ?_
  rw [get?_remove] at found
  split at found
  · cases found
  · exact found

theorem removeAll (every : cache.Every P) (gone : List Path) : (cache.removeAll gone).Every P := by
  refine every.of_get? fun path entry found => ?_
  rw [get?_removeAll] at found
  split at found
  · cases found
  · exact found

theorem clear (cache : Cache) : cache.clear.Every P := by
  intro path entry found
  simp at found

end Every

theorem foldl_keeps {α β γ : Type} (view : β → γ) (step : β → α → β)
    (keeps : ∀ state item, view (step state item) = view state) (start : β) (items : List α) :
    view (items.foldl step start) = view start := by
  induction items generalizing start with
  | nil => rfl
  | cons item rest ih => rw [List.foldl_cons, ih, keeps]

@[simp] theorem order_see (cache : Cache) (path : Path) : (cache.see path).order = cache.order := by
  unfold see
  split <;> rfl

@[simp] theorem policy_see (cache : Cache) (path : Path) : (cache.see path).policy = cache.policy := by
  unfold see
  split <;> rfl

@[simp] theorem order_startRefresh (cache : Cache) (paths : List Path) :
    (cache.startRefresh paths).order = cache.order :=
  foldl_keeps Cache.order see order_see _ paths

@[simp] theorem policy_startRefresh (cache : Cache) (paths : List Path) :
    (cache.startRefresh paths).policy = cache.policy :=
  foldl_keeps Cache.policy see policy_see _ paths

@[simp] theorem generation_startRefresh (cache : Cache) (paths : List Path) :
    (cache.startRefresh paths).generation = cache.generation + 1 :=
  foldl_keeps Cache.generation see generation_see _ paths

@[simp] theorem generation_removeAll (cache : Cache) (paths : List Path) :
    (cache.removeAll paths).generation = cache.generation :=
  foldl_keeps Cache.generation remove (fun _ _ => rfl) _ paths

theorem order_removeAll (cache : Cache) (paths : List Path) :
    (cache.removeAll paths).order = cache.order.filter fun path => path.key ∉ Path.keys paths := by
  unfold removeAll
  induction paths generalizing cache with
  | nil => simp
  | cons path rest ih =>
    rw [List.foldl_cons, ih, remove, List.filter_filter]
    apply List.filter_congr
    intro other _
    rw [Path.same, Bool.eq_iff_iff]
    simp [and_comm]

end Cache

end TagMenu
