import Mathlib
import TagMenu.Proofs.Cache.Look

namespace TagMenu.Cache

/-- What can be asked of a cache. Nothing is said about how the worlds of two refreshes have to do
    with each other. -/
inductive Request (σ : Type) where
  | insert (entry : Entry)
  | refresh (world : σ) (paths : List Path)
  | remove (path : Path)
  | clear

abbrev History (σ : Type) := List (Request σ)

section

variable {σ : Type}

def Request.serve (supply : Supply (StateM σ)) (cache : Cache) : Request σ → Cache
  | insert entry => cache.insert entry
  | refresh world paths => ((cache.refresh supply paths).run world).1.2
  | remove path => cache.remove path
  | clear => cache.clear

def cacheAfter (supply : Supply (StateM σ)) (policy : Eviction) : History σ → Cache
  | [] => { policy }
  | request :: past => request.serve supply (cacheAfter supply policy past)

def refreshes : History σ → Nat
  | [] => 0
  | .refresh _ _ :: past => refreshes past + 1
  | _ :: past => refreshes past

/-- How many refreshes there have been since the last one that listed a file, or since the file was
    last inserted, if that was later. -/
def misses (key : Path.Key) : History σ → Nat
  | [] => 0
  | .refresh _ paths :: past => if key ∈ Path.keys paths then 0 else misses key past + 1
  | .insert entry :: past => if entry.path.key = key then 0 else misses key past
  | .remove _ :: past => misses key past
  | .clear :: past => misses key past

def worlds : History σ → List σ
  | [] => []
  | .refresh world _ :: past => world :: worlds past
  | _ :: past => worlds past

end

variable {σ : Type} {supply : Supply (StateM σ)} {policy : Eviction} {cache : Cache} {paths : List Path} {world : σ}

theorem refresh_keeps (Inv : Cache → Prop) (start : ∀ cache paths, Inv cache → Inv (cache.startRefresh paths))
    (insert : ∀ cache entry, Inv cache → Inv (cache.insert entry))
    (remove : ∀ cache path, Inv cache → Inv (cache.remove path)) (kept : Inv cache) :
    Inv ((refresh supply paths cache).run world).1.2 := by
  obtain ⟨_, _, _, ready, _, dropped, -, looks, after, -⟩ := refresh_cases supply paths cache world
  rw [after]
  have there := bringUp_keeps Inv insert (start cache paths kept) looks
  unfold removeAll
  clear looks after
  induction dropped generalizing ready with
  | nil => exact there
  | cons path rest ih => exact ih _ (remove ready path there)

theorem policy_refresh {outcome : Except Error Report} {after : Cache}
    (run : ((refresh supply paths cache).run world).1 = (outcome, after)) : after.policy = cache.policy := by
  have kept : ((refresh supply paths cache).run world).1.2.policy = cache.policy :=
    refresh_keeps (·.policy = cache.policy) (fun cache paths kept => by simpa using kept) (fun _ _ kept => kept)
      (fun _ _ kept => kept) rfl
  rwa [run] at kept

theorem cacheAfter_keeps (Inv : Cache → Prop) (empty : Inv { policy })
    (start : ∀ cache paths, Inv cache → Inv (cache.startRefresh paths))
    (insert : ∀ cache entry, Inv cache → Inv (cache.insert entry))
    (remove : ∀ cache path, Inv cache → Inv (cache.remove path)) (clear : ∀ cache, Inv cache → Inv cache.clear)
    (history : History σ) : Inv (cacheAfter supply policy history) := by
  induction history with
  | nil => exact empty
  | cons request past ih =>
    cases request with
    | insert entry => exact insert _ entry ih
    | refresh world paths => exact refresh_keeps Inv start insert remove ih
    | remove path => exact remove _ path ih
    | clear => exact clear _ ih

theorem policy_cacheAfter (history : History σ) : (cacheAfter supply policy history).policy = policy :=
  cacheAfter_keeps (·.policy = policy) rfl (fun cache paths kept => by simpa using kept) (fun _ _ kept => kept)
    (fun _ _ kept => kept) (fun _ kept => kept) history

theorem generation_refresh : ((refresh supply paths cache).run world).1.2.generation = cache.generation + 1 := by
  obtain ⟨_, _, _, ready, _, dropped, -, looks, after, -⟩ := refresh_cases supply paths cache world
  rw [after, generation_removeAll]
  exact bringUp_keeps (·.generation = cache.generation + 1) (fun _ _ kept => kept) (by simp) looks

theorem generation_cacheAfter (history : History σ) :
    (cacheAfter supply policy history).generation = refreshes history := by
  induction history with
  | nil => rfl
  | cons request past ih =>
    cases request with
    | refresh world paths => exact generation_refresh.trans (congrArg (· + 1) ih)
    | _ => exact ih

end TagMenu.Cache
