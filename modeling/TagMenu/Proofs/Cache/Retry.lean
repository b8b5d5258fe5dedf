import Mathlib
import TagMenu.Proofs.Cache.Fixed

namespace TagMenu.Cache

open Disk (Timestamp)

variable {σ : Type} {supply : Supply (StateM σ)} {cache after direct final : Cache} {path : Path} {paths : List Path}
  {report done retried : Report} {key : Path.Key} {error : Error} {first world : σ}

/-- Files of a list have been loaded that were due in `cache`, as they are in this world, and nothing
    else has been done. -/
structure PartlyDone (supply : Supply (StateM σ)) (world : σ) (cache : Cache) (paths : List Path) (done : Report)
    (after : Cache) : Prop where
  distinct : (Path.keys (done.loaded.map (·.1))).Nodup
  loaded : ∀ load ∈ done.loaded, load.1 ∈ paths ∧ ∃ modified candidates,
    supply.time world load.1 = .ok modified ∧ (cache.get? load.1).any (·.isFresh modified) = false ∧
    supply.tags world load.1 = .ok candidates ∧ after.known? load.1 = some (modified, candidates)
  untouched : ∀ path, path.key ∉ Path.keys (done.loaded.map (·.1)) → after.get? path = cache.get? path

theorem partlyDone_of_failure (fixed : supply.Fixed first)
    (failed : ((refresh supply paths cache).run first).1 = (.error error, after))
    (agrees : ∀ load ∈ error.progress.loaded, supply.time world load.1 = supply.time first load.1 ∧
      supply.tags world load.1 = supply.tags first load.1) :
    PartlyDone supply world cache paths error.progress after := by
  have run : (refresh supply paths cache).run first =
      ((.error error, after), ((refresh supply paths cache).run first).2) := Prod.ext failed rfl
  obtain ⟨before, rest, next, split, looks, -⟩ := bringUp_error (refresh_error.mp run)
  obtain ⟨progress, loads⟩ := loads_bringUp fixed looks
  constructor
  · exact loads.distinct
  · intro load member
    obtain ⟨modified, candidates, time, stale, tags, -, known⟩ := loads.each load member
    obtain ⟨sameTime, sameTags⟩ := agrees load member
    rw [get?_startRefresh] at stale
    refine ⟨?_, modified, candidates, sameTime.trans time, stale, sameTags.trans tags, known⟩
    rw [split]
    exact List.mem_append_left _ (progress.loaded load member).1
  · intro path spared
    rw [progress.untouched path spared, get?_startRefresh]

namespace PartlyDone

variable (partly : PartlyDone supply world cache paths done after)
include partly

theorem due_of_loaded (loaded : key ∈ Path.keys (done.loaded.map (·.1))) : Due supply world cache paths key := by
  obtain ⟨load, member, rfl⟩ := mem_keys_loaded.mp loaded
  obtain ⟨listed, modified, candidates, time, stale, -⟩ := partly.loaded load member
  exact ⟨load.1, listed, rfl, modified, time, stale⟩

theorem fresh_of_loaded (fixed : supply.Fixed world) (loaded : path.key ∈ Path.keys (done.loaded.map (·.1)))
    {modified : Timestamp} (time : supply.time world path = .ok modified) :
    (after.get? path).any (·.isFresh modified) = true := by
  obtain ⟨load, member, same⟩ := mem_keys_loaded.mp loaded
  obtain ⟨-, earlier, candidates, before, -, -, known⟩ := partly.loaded load member
  obtain rfl := fixed.oneTime _ _ _ _ same before time
  exact fresh_iff.mpr ⟨candidates, known?_congr same ▸ known⟩

theorem due_iff (fixed : supply.Fixed world) :
    Due supply world after paths key ↔
      Due supply world cache paths key ∧ key ∉ Path.keys (done.loaded.map (·.1)) := by
  constructor
  · intro due
    have spared : key ∉ Path.keys (done.loaded.map (·.1)) := by
      obtain ⟨path, listed, rfl, modified, time, stale⟩ := due
      intro loaded
      rw [partly.fresh_of_loaded fixed loaded time] at stale
      cases stale
    exact ⟨due.congr fun path same => (partly.untouched path (same ▸ spared)).symm, spared⟩
  · rintro ⟨due, spared⟩
    exact due.congr fun path same => partly.untouched path (same ▸ spared)

theorem succeeds (fixed : supply.Fixed world) (succeeds : Succeeds supply paths cache world) :
    Succeeds supply paths after world := by
  rw [succeeds_iff_loads fixed] at succeeds ⊢
  intro path listed modified time
  by_cases loaded : path.key ∈ Path.keys (done.loaded.map (·.1))
  · exact .inl (partly.fresh_of_loaded fixed loaded time)
  · rw [partly.untouched path loaded]
    exact succeeds path listed modified time

theorem loaded_perm (fixed : supply.Fixed world) (atOnce : Outcome supply world cache paths report direct)
    (again : Outcome supply world after paths retried final) :
    (Path.keys (report.loaded.map (·.1))).Perm
      (Path.keys (done.loaded.map (·.1)) ++ Path.keys (retried.loaded.map (·.1))) := by
  have nodup : (Path.keys (done.loaded.map (·.1)) ++ Path.keys (retried.loaded.map (·.1))).Nodup := by
    refine List.nodup_append.mpr ⟨partly.distinct, again.distinct, fun key loaded other later => ?_⟩
    rintro rfl
    exact ((partly.due_iff fixed).mp ((again.loaded key).mp later)).2 loaded
  refine (List.perm_ext_iff_of_nodup atOnce.distinct nodup).mpr fun key => ?_
  rw [List.mem_append, atOnce.loaded, again.loaded, partly.due_iff fixed]
  constructor
  · intro due
    by_cases loaded : key ∈ Path.keys (done.loaded.map (·.1))
    · exact .inl loaded
    · exact .inr ⟨due, loaded⟩
  · rintro (loaded | ⟨due, -⟩)
    · exact partly.due_of_loaded loaded
    · exact due

theorem known_of_loaded (atOnce : Outcome supply world cache paths report direct)
    (loaded : path.key ∈ Path.keys (done.loaded.map (·.1))) : direct.known? path = after.known? path := by
  obtain ⟨load, member, same⟩ := mem_keys_loaded.mp loaded
  obtain ⟨listed, modified, candidates, time, stale, tags, known⟩ := partly.loaded load member
  obtain ⟨found, parsed, -, now⟩ := atOnce.new load.1 listed modified time stale
  rw [tags] at parsed
  cases parsed
  rw [← known?_congr same, ← known?_congr same, now, known]

theorem known_eq (fixed : supply.Fixed world) (atOnce : Outcome supply world cache paths report direct)
    (again : Outcome supply world after paths retried final) (none : report.evicted = [])
    (noneAgain : retried.evicted = []) (path : Path) : final.known? path = direct.known? path := by
  by_cases due : Due supply world after paths path.key
  · have spared := ((partly.due_iff fixed).mp due).2
    obtain ⟨spelled, listed, same, modified, time, stale⟩ := due
    have staleBefore := stale
    rw [partly.untouched spelled (same ▸ spared)] at staleBefore
    obtain ⟨candidates, tags, -, known⟩ := again.new spelled listed modified time stale
    obtain ⟨found, parsed, -, now⟩ := atOnce.new spelled listed modified time staleBefore
    rw [tags] at parsed
    cases parsed
    rw [← known?_congr same, ← known?_congr same, known, now]
  · have kept : final.known? path = after.known? path := by
      rw [again.old path due, noneAgain]
      exact if_neg (by simp)
    rw [kept]
    by_cases loaded : path.key ∈ Path.keys (done.loaded.map (·.1))
    · exact (partly.known_of_loaded atOnce loaded).symm
    · have notDue : ¬ Due supply world cache paths path.key := fun before =>
        due ((partly.due_iff fixed).mpr ⟨before, loaded⟩)
      rw [atOnce.old path notDue, none, known?, partly.untouched path loaded]
      exact (if_neg (by simp)).symm

end PartlyDone

/-- A refresh that is tried again after a failure comes to what one at once comes to, and the two loads
    of the files go together to its loads. -/
structure Converges (done : Report) (again : Except Error Report × Cache) (report : Report) (direct : Cache) :
    Prop where
  succeeds : ∃ retried, again.1 = .ok retried ∧ report.loaded.length = done.loaded.length + retried.loaded.length ∧
    (Path.keys (report.loaded.map (·.1))).Perm
      (Path.keys (done.loaded.map (·.1)) ++ Path.keys (retried.loaded.map (·.1)))
  known : ∀ path, again.2.known? path = direct.known? path

/-- However a refresh has failed, if files have stayed as they were loaded, another try comes to what a
    first one comes to by then, and no file is loaded twice or left out. -/
theorem retry_converges (supply : Supply (StateM σ)) (cache : Cache) (paths : List Path) (first world : σ)
    (error : Error) (after direct : Cache) (report : Report) (retain : cache.policy = .retain)
    (fixedFirst : supply.Fixed first) (fixed : supply.Fixed world)
    (failed : ((refresh supply paths cache).run first).1 = (.error error, after))
    (agrees : ∀ load ∈ error.progress.loaded, supply.time world load.1 = supply.time first load.1 ∧
      supply.tags world load.1 = supply.tags first load.1)
    (atOnce : ((refresh supply paths cache).run world).1 = (.ok report, direct)) :
    Converges error.progress ((refresh supply paths after).run world).1 report direct := by
  have partly := partlyDone_of_failure fixedFirst failed agrees
  have succeeds : Succeeds supply paths after world :=
    partly.succeeds fixed (by rw [Succeeds, atOnce, isOk_ok])
  rcases again : ((refresh supply paths after).run world).1 with ⟨failure | retried, final⟩
  · rw [Succeeds, again] at succeeds
    cases succeeds
  · have outcome := outcome_of_refresh fixed atOnce
    have outcomeAgain := outcome_of_refresh fixed again
    have loaded := partly.loaded_perm fixed outcome outcomeAgain
    have none := (keeps_of_retain retain atOnce).1
    have noneAgain := (keeps_of_retain ((policy_refresh failed).trans retain) again).1
    refine ⟨⟨retried, rfl, ?_, loaded⟩, partly.known_eq fixed outcome outcomeAgain none noneAgain⟩
    simpa using loaded.length_eq

theorem retry_converges_once_readable :
    let shelf (content : Option (List Candidate)) : Supply.Shelf := fun key =>
      if key = Path.key ⟨"a"⟩ then some (⟨1, 0⟩, some [.ofParts "f" "" "" "" ""])
      else if key = Path.key ⟨"b"⟩ then some (⟨1, 0⟩, content)
      else none
    let paths : List Path := [⟨"a"⟩, ⟨"b"⟩, ⟨"a/"⟩]
    let error : Error := ⟨⟨"b"⟩, .unreadable ⟨"b"⟩ .permissionDenied, { loaded := [(⟨"a"⟩, 1)] }⟩
    let after := (({} : Cache).startRefresh paths).insert ⟨⟨"a"⟩, ⟨1, 0⟩, [.ofParts "f" "" "" "" ""]⟩
    Supply.ofShelf.Fixed (shelf none) ∧ Supply.ofShelf.Fixed (shelf (some [])) ∧
      ((refresh .ofShelf paths {}).run (shelf none)).1 = (.error error, after) ∧
      (∀ load ∈ error.progress.loaded,
        Supply.ofShelf.time (shelf (some [])) load.1 = Supply.ofShelf.time (shelf none) load.1 ∧
          Supply.ofShelf.tags (shelf (some [])) load.1 = Supply.ofShelf.tags (shelf none) load.1) ∧
      ∃ report direct, ((refresh .ofShelf paths {}).run (shelf (some []))).1 = (.ok report, direct) ∧
        Converges error.progress ((refresh .ofShelf paths after).run (shelf (some []))).1 report direct := by
  intro shelf paths error after
  have failed : ((refresh .ofShelf paths {}).run (shelf none)).1 = (.error error, after) := by
    have looks : (bringUp .ofShelf paths {} (({} : Cache).startRefresh paths)).run (shelf none) =
        ((.error error, after), shelf none) := by
      have first : (look .ofShelf ⟨"a"⟩ none).run (shelf none) =
        (.loaded ⟨1, 0⟩ [.ofParts "f" "" "" "" ""], shelf none) := rfl
      have second : (look .ofShelf ⟨"b"⟩ none).run (shelf none) = (.refused error.cause, shelf none) := rfl
      have other : Path.key ⟨"a"⟩ ≠ Path.key ⟨"b"⟩ := by decide
      have accepted : (Finding.loaded ⟨1, 0⟩ [.ofParts "f" "" "" "" ""]).Accepted := fun _ => nofun
      rw [bringUp_cons, get?_startRefresh_empty, first, goOn_accepted accepted, bringUp_cons, Finding.storeIn,
        get?_insert, if_neg other, get?_startRefresh_empty, second]
      rfl
    rw [refresh_error.mpr looks]
  have agrees : ∀ load ∈ error.progress.loaded,
      Supply.ofShelf.time (shelf (some [])) load.1 = Supply.ofShelf.time (shelf none) load.1 ∧
        Supply.ofShelf.tags (shelf (some [])) load.1 = Supply.ofShelf.tags (shelf none) load.1 := by
    intro load member
    rw [List.mem_singleton.mp member]
    exact ⟨rfl, rfl⟩
  have succeeds : Succeeds .ofShelf paths {} (shelf (some [])) := by
    refine (succeeds_iff_loads (Supply.fixed_ofShelf _)).mpr fun path listed modified _ => .inr ?_
    simp only [paths, List.mem_cons, List.not_mem_nil, or_false] at listed
    rcases listed with rfl | rfl | rfl
    · exact ⟨_, rfl⟩
    · exact ⟨_, rfl⟩
    · exact ⟨_, rfl⟩
  rcases atOnce : ((refresh .ofShelf paths {}).run (shelf (some []))).1 with ⟨failure | report, direct⟩
  · rw [Succeeds, atOnce] at succeeds
    cases succeeds
  · exact ⟨Supply.fixed_ofShelf _, Supply.fixed_ofShelf _, failed, agrees, report, direct, rfl,
      retry_converges .ofShelf {} paths (shelf none) (shelf (some [])) error after direct report rfl
        (Supply.fixed_ofShelf _) (Supply.fixed_ofShelf _) failed agrees atOnce⟩

end TagMenu.Cache
