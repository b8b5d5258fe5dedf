import Mathlib
import TagMenu.Proofs.Cache.Failure

namespace TagMenu

open Disk (Timestamp)

namespace Supply

variable {σ : Type} {supply : Supply (StateM σ)} {world later : σ}

def tags (supply : Supply (StateM σ)) (world : σ) (path : Path) : Except TagFile.Error (List Candidate) :=
  ((supply.load path).run world).1

/-- Whatever is asked, files stay as they are, and what is loaded depends on the file alone: all
    spellings of a path that can be looked at have one time and give the same candidates. Errors may
    tell the spelling. -/
structure Fixed (supply : Supply (StateM σ)) (world : σ) : Prop where
  times : supply.Still world
  loads : ∀ later, supply.Leads world later → supply.tags later = supply.tags world
  oneTime : supply.OneTime world
  oneFile : ∀ left right earlier later candidates, left.key = right.key → supply.time world left = .ok earlier →
    supply.time world right = .ok later → supply.tags world left = .ok candidates →
    supply.tags world right = .ok candidates

theorem Fixed.of_led (fixed : supply.Fixed world) (led : supply.Leads world later) : supply.Fixed later := by
  have times := fixed.times later led
  have tags := fixed.loads later led
  constructor
  · exact fun last further => (fixed.times last (Cache.leads_trans led further)).trans times.symm
  · exact fun last further => (fixed.loads last (Cache.leads_trans led further)).trans tags.symm
  · rw [OneTime, times]
    exact fixed.oneTime
  · rw [times, tags]
    exact fixed.oneFile

/-- Files by their keys: when each was last changed, and its candidates unless it cannot be read. -/
abbrev Shelf := Path.Key → Option (Timestamp × Option (List Candidate))

def ofShelf : Supply (StateM Shelf) where
  modified path := return match (← get) path.key with
    | none => .error .notFound
    | some (modified, _) => .ok modified
  load path := return match ((← get) path.key).bind (·.2) with
    | none => .error (.unreadable path .permissionDenied)
    | some candidates => .ok candidates
  note _ := return

theorem eq_of_led_ofShelf {shelf later : Shelf} (led : ofShelf.Leads shelf later) : later = shelf := by
  induction led with
  | nowhere => rfl
  | modified led run ih =>
    cases run
    exact ih
  | load led run ih =>
    cases run
    exact ih
  | note led note ih => exact ih

theorem fixed_ofShelf (shelf : Shelf) : ofShelf.Fixed shelf := by
  constructor
  · intro later led
    rw [eq_of_led_ofShelf led]
  · intro later led
    rw [eq_of_led_ofShelf led]
  · intro left right earlier later same before now
    have times : ofShelf.time shelf left = ofShelf.time shelf right := by
      show (match shelf left.key with | none => _ | some (modified, _) => _) = _
      rw [same]
      rfl
    exact Except.ok.inj (before.symm.trans (times.trans now))
  · intro left right earlier later candidates same _ _ tags
    have loads : ∀ path : Path, ofShelf.tags shelf path = .ok candidates ↔
        (shelf path.key).bind (·.2) = some candidates := fun path => by
      show (match (shelf path.key).bind (·.2) with | none => _ | some candidates => _) = _ ↔ _
      cases (shelf path.key).bind (·.2) <;> simp
    rw [loads] at tags ⊢
    rwa [← same]

end Supply

namespace Cache

variable {σ : Type} {supply : Supply (StateM σ)} {cache now after : Cache} {path : Path} {paths done : List Path}
  {report final : Report} {key : Path.Key} {modified : Timestamp} {start world next last : σ}

def known? (cache : Cache) (path : Path) : Option (Timestamp × List Candidate) :=
  (cache.get? path).map fun entry => (entry.modified, entry.candidates)

/-- Is a listed spelling of this file one that can be looked at, while the file is not current? -/
def Due (supply : Supply (StateM σ)) (world : σ) (cache : Cache) (paths : List Path) (key : Path.Key) : Prop :=
  ∃ path ∈ paths, path.key = key ∧ ∃ modified, supply.time world path = .ok modified ∧
    (cache.get? path).any (·.isFresh modified) = false

theorem fresh_iff : (cache.get? path).any (·.isFresh modified) = true ↔
    ∃ candidates, cache.known? path = some (modified, candidates) := by
  rw [known?]
  cases cache.get? path with
  | none => simp
  | some entry => simp [Entry.isFresh]

theorem known?_congr {left right : Path} (same : left.key = right.key) : cache.known? left = cache.known? right := by
  rw [known?, known?, cache.get?_congr same]

theorem Due.congr {other : Cache} (due : Due supply world cache paths key)
    (same : ∀ path, path.key = key → other.get? path = cache.get? path) : Due supply world other paths key := by
  obtain ⟨path, listed, spelled, modified, time, stale⟩ := due
  exact ⟨path, listed, spelled, modified, time, by rw [same path spelled, stale]⟩

theorem due_startRefresh {listed : List Path} :
    Due supply world (cache.startRefresh listed) paths key ↔ Due supply world cache paths key :=
  ⟨fun due => due.congr fun path _ => (get?_startRefresh cache listed path).symm,
    fun due => due.congr fun path _ => get?_startRefresh cache listed path⟩

structure Loads (supply : Supply (StateM σ)) (start : σ) (cache : Cache) (report : Report) (now : Cache) : Prop where
  distinct : (Path.keys (report.loaded.map (·.1))).Nodup
  each : ∀ load ∈ report.loaded, ∃ modified candidates, supply.time start load.1 = .ok modified ∧
    (cache.get? load.1).any (·.isFresh modified) = false ∧ supply.tags start load.1 = .ok candidates ∧
    load.2 = candidates.length ∧ now.known? load.1 = some (modified, candidates)

theorem Loads.nothing : Loads supply start cache {} now := by
  constructor <;> simp

theorem Loads.load (loads : Loads supply start cache report now)
    (progress : Progress supply start cache done report now) (oneTime : supply.OneTime start)
    (time : supply.time start path = .ok modified) (stale : (now.get? path).any (·.isFresh modified) = false)
    {candidates : List Candidate} (tags : supply.tags start path = .ok candidates) :
    Loads supply start cache ((Finding.loaded modified candidates).addTo path report)
      (now.insert ⟨path, modified, candidates⟩) := by
  have first := progress.not_loaded (progress.unseen oneTime time stale)
  constructor
  · simp only [Finding.addTo, List.map_append, Path.keys]
    refine List.nodup_append.mpr ⟨loads.distinct, by simp, ?_⟩
    intro key there other last
    rw [List.map_singleton, List.map_singleton, List.mem_singleton] at last
    rintro rfl
    exact first (last ▸ there)
  · refine List.forall_mem_append.mpr ⟨fun load member => ?_, ?_⟩
    · obtain ⟨before, found, earlier, due, parsed, count, known⟩ := loads.each load member
      refine ⟨before, found, earlier, due, parsed, count, ?_⟩
      have other : path.key ≠ load.1.key := fun same => first (mem_keys_loaded.mpr ⟨load, member, same.symm⟩)
      rw [known?, get?_insert, if_neg other]
      exact known
    · rw [progress.untouched path first] at stale
      simp [time, stale, tags, known?]

theorem loads_bringUp (fixed : supply.Fixed start)
    (run : (bringUp supply paths {} cache).run start = ((.ok final, after), last)) :
    Progress supply start cache paths final after ∧ Loads supply start cache final after := by
  refine (bringUp_invariant (fun done report now world => supply.Leads start world ∧
    Progress supply start cache done report now ∧ Loads supply start cache report now)
    ?_ [] ⟨.nowhere, .nothing, .nothing⟩ run).2
  rintro done path report now world finding next - ⟨led, progress, loads⟩ found accepted
  have looked := look_cases found
  refine ⟨looked.leads led, ?_⟩
  have time := congrFun (fixed.times world led) path
  cases looked with
  | missing note answer =>
    exact ⟨progress.skip (time.symm.trans (congrArg Prod.fst answer)), loads.distinct, loads.each⟩
  | current answer fresh =>
    exact ⟨progress.pass (time.symm.trans (congrArg Prod.fst answer)) fresh, loads.distinct, loads.each⟩
  | refused => exact absurd rfl (accepted _)
  | loaded note answer stale content =>
    have now := time.symm.trans (congrArg Prod.fst answer)
    have tags := (congrFun (fixed.loads _ (led.modified answer)) path).symm.trans (congrArg Prod.fst content)
    exact ⟨progress.load fixed.oneTime now stale _, loads.load progress fixed.oneTime now stale tags⟩

theorem refused_of_led (fixed : supply.Fixed start) (led : supply.Leads start world) {known : Option Entry}
    {cause : TagFile.Error} (found : (look supply path known).run world = (.refused cause, next)) :
    ∃ modified, supply.time start path = .ok modified ∧ known.any (·.isFresh modified) = false ∧
      supply.tags start path = .error cause := by
  cases look_cases found with
  | refused answer stale content =>
    exact ⟨_, (congrFun (fixed.times world led) path).symm.trans (congrArg Prod.fst answer), stale,
      (congrFun (fixed.loads _ (led.modified answer)) path).symm.trans (congrArg Prod.fst content)⟩

section

variable (fixed : supply.Fixed start)
  (run : (bringUp supply paths {} cache).run start = ((.ok final, after), last))
include fixed run

theorem loaded_iff_due : key ∈ Path.keys (final.loaded.map (·.1)) ↔ Due supply start cache paths key := by
  obtain ⟨progress, loads⟩ := loads_bringUp fixed run
  constructor
  · intro loaded
    obtain ⟨load, member, rfl⟩ := mem_keys_loaded.mp loaded
    obtain ⟨modified, -, time, stale, -⟩ := loads.each load member
    exact ⟨load.1, (progress.loaded load member).1, rfl, modified, time, stale⟩
  · rintro ⟨path, listed, rfl, modified, time, stale⟩
    by_contra absent
    have fresh := progress.current path listed modified time
    rw [progress.untouched path absent, stale] at fresh
    cases fresh

theorem known_of_due (listed : path ∈ paths) (time : supply.time start path = .ok modified)
    (stale : (cache.get? path).any (·.isFresh modified) = false) :
    ∃ candidates, supply.tags start path = .ok candidates ∧
      (path.key, candidates.length) ∈ final.loaded.map (fun load => (load.1.key, load.2)) ∧
      after.known? path = some (modified, candidates) := by
  obtain ⟨-, loads⟩ := loads_bringUp fixed run
  obtain ⟨load, member, same⟩ :=
    mem_keys_loaded.mp ((loaded_iff_due fixed run).mpr ⟨path, listed, rfl, modified, time, stale⟩)
  obtain ⟨earlier, candidates, before, -, tags, count, known⟩ := loads.each load member
  obtain rfl := fixed.oneTime _ _ _ _ same before time
  refine ⟨candidates, fixed.oneFile _ _ _ _ _ same before time tags, ?_, known?_congr same ▸ known⟩
  exact List.mem_map.mpr ⟨load, member, by rw [same, count]⟩

theorem get?_of_not_due (rest : ¬ Due supply start cache paths path.key) : after.get? path = cache.get? path := by
  obtain ⟨progress, -⟩ := loads_bringUp fixed run
  exact progress.untouched path fun loaded => rest ((loaded_iff_due fixed run).mp loaded)

end

def Succeeds (supply : Supply (StateM σ)) (paths : List Path) (cache : Cache) (world : σ) : Prop :=
  ((refresh supply paths cache).run world).1.1.isOk = true

theorem succeeds_cases (succeeds : Succeeds supply paths cache world) :
    ∃ report ready next,
      (bringUp supply paths {} (cache.startRefresh paths)).run world = ((.ok report, ready), next) ∧
      ((refresh supply paths cache).run world).1.2 = ready.removeAll ready.idlePaths := by
  rcases outcome : ((refresh supply paths cache).run world).1 with ⟨error | report, after⟩
  · rw [Succeeds, outcome] at succeeds
    cases succeeds
  · obtain ⟨report, ready, next, run, -, rfl⟩ := refresh_ok_cases outcome
    exact ⟨report, ready, next, run, rfl⟩

theorem succeeds_iff_loads (fixed : supply.Fixed world) :
    Succeeds supply paths cache world ↔ ∀ path ∈ paths, ∀ modified, supply.time world path = .ok modified →
      (cache.get? path).any (·.isFresh modified) = true ∨
        ∃ candidates, supply.tags world path = .ok candidates := by
  constructor
  · intro succeeds path listed modified time
    obtain ⟨report, ready, next, run, -⟩ := succeeds_cases succeeds
    by_cases fresh : (cache.get? path).any (·.isFresh modified) = true
    · exact .inl fresh
    · have stale : ((cache.startRefresh paths).get? path).any (·.isFresh modified) = false := by simpa using fresh
      obtain ⟨candidates, tags, -⟩ := known_of_due fixed run listed time stale
      exact .inr ⟨candidates, tags⟩
  · intro each
    rcases run : (bringUp supply paths {} (cache.startRefresh paths)).run world with
      ⟨⟨error | report, after⟩, last⟩
    · obtain ⟨before, rest, reached, rfl, looks, refused⟩ := bringUp_error run
      obtain ⟨led, progress⟩ := progress_bringUp fixed.times fixed.oneTime looks
      obtain ⟨modified, time, stale, failing⟩ := refused_of_led fixed led refused
      rcases each error.path (by simp) modified time with fresh | ⟨candidates, tags⟩
      · have kept := progress.untouched error.path
          (progress.not_loaded (progress.unseen fixed.oneTime time stale))
        rw [kept, get?_startRefresh, fresh] at stale
        cases stale
      · rw [failing] at tags
        cases tags
    · rw [Succeeds, refresh_ok run]
      rfl

/-- What a refresh of these files reports and leaves, told from the set of files, except for the order
    of what it adds. -/
structure Outcome (supply : Supply (StateM σ)) (world : σ) (cache : Cache) (paths : List Path) (report : Report)
    (after : Cache) : Prop where
  count : report.looked = paths.length
  skipped : report.skipped = paths.filter fun path => !(supply.time world path).isOk
  evicted : report.evicted = (cache.startRefresh paths).idlePaths
  distinct : (Path.keys (report.loaded.map (·.1))).Nodup
  loaded : ∀ key, key ∈ Path.keys (report.loaded.map (·.1)) ↔ Due supply world cache paths key
  new : ∀ path ∈ paths, ∀ modified, supply.time world path = .ok modified →
    (cache.get? path).any (·.isFresh modified) = false → ∃ candidates, supply.tags world path = .ok candidates ∧
      (path.key, candidates.length) ∈ report.loaded.map (fun load => (load.1.key, load.2)) ∧
      after.known? path = some (modified, candidates)
  old : ∀ path, ¬ Due supply world cache paths path.key →
    after.known? path = if path.key ∈ Path.keys report.evicted then none else cache.known? path
  order : after.order = (cache.order ++ (report.loaded.map (·.1)).filter fun path => !cache.contains path).filter
    fun path => path.key ∉ Path.keys report.evicted

theorem known?_removeAll (cache : Cache) (gone : List Path) (path : Path) :
    (cache.removeAll gone).known? path = if path.key ∈ Path.keys gone then none else cache.known? path := by
  rw [known?, get?_removeAll]
  split <;> rfl

theorem outcome_of_refresh (fixed : supply.Fixed world)
    (run : ((refresh supply paths cache).run world).1 = (.ok final, after)) :
    Outcome supply world cache paths final after := by
  obtain ⟨report, ready, next, looks, rfl, rfl⟩ := refresh_ok_cases run
  obtain ⟨progress, loads⟩ := loads_bringUp fixed looks
  constructor
  · exact progress.count
  · exact progress.skipped
  · exact idlePaths_bringUp looks
  · exact loads.distinct
  · exact fun key => (loaded_iff_due fixed looks).trans due_startRefresh
  · intro path listed modified time stale
    rw [← get?_startRefresh cache paths] at stale
    obtain ⟨candidates, tags, member, known⟩ := known_of_due fixed looks listed time stale
    have stays := idlePaths_unlisted looks _ (List.mem_map_of_mem listed)
    exact ⟨candidates, tags, member, by rw [known?_removeAll, if_neg stays, known]⟩
  · intro path rest
    rw [known?_removeAll, known?, get?_of_not_due fixed looks fun due => rest (due_startRefresh.mp due),
      get?_startRefresh]
    rfl
  · rw [order_removeAll, progress.order, order_startRefresh]
    simp only [contains_startRefresh]

end Cache

end TagMenu
