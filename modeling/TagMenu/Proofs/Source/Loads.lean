import Mathlib
import TagMenu.Proofs.Source.Messages

namespace TagMenu

namespace Cache

/-- The last load of the entry's file is that of the entry. -/
def LastLoad (loads : List (Path × Nat)) (entry : Entry) : Prop :=
  ∃ before after, loads = before ++ (entry.path, entry.candidates.length) :: after ∧
    entry.path.key ∉ Path.keys (after.map (·.1))

/-- What becomes of a cache by loads: an entry was there before, and its file is not among them, or it comes of the last
    load of its file. -/
def Updated (earlier : Cache) (loads : List (Path × Nat)) (cache : Cache) : Prop :=
  ∀ path entry, cache.get? path = some entry →
    (earlier.get? path = some entry ∧ path.key ∉ Path.keys (loads.map (·.1))) ∨
    (entry.path.key = path.key ∧ LastLoad loads entry)

namespace Updated

variable {earlier cache after : Cache} {loads : List (Path × Nat)}

theorem nothing (same : ∀ path, cache.get? path = earlier.get? path) : Updated earlier [] cache := by
  intro path entry found
  exact .inl ⟨same path ▸ found, List.not_mem_nil⟩

theorem of_get? (updated : Updated earlier loads cache)
    (fewer : ∀ path entry, after.get? path = some entry → cache.get? path = some entry) : Updated earlier loads after :=
  fun path entry found => updated path entry (fewer path entry found)

theorem insert (updated : Updated earlier loads cache) (entry : Entry) :
    Updated earlier (loads ++ [(entry.path, entry.candidates.length)]) (cache.insert entry) := by
  intro path other found
  rw [get?_insert] at found
  split at found
  case isTrue same =>
    cases found
    exact .inr ⟨same, loads, [], rfl, List.not_mem_nil⟩
  case isFalse different =>
    have apart : path.key ∉ Path.keys [entry.path] := by simpa using Ne.symm different
    rcases updated path other found with ⟨there, spared⟩ | ⟨same, before, later, split, last⟩
    · refine .inl ⟨there, ?_⟩
      rw [List.map_append, Path.keys, List.map_append, List.mem_append]
      exact not_or.mpr ⟨spared, apart⟩
    · refine .inr ⟨same, before, later ++ [(entry.path, entry.candidates.length)], by simp [split], ?_⟩
      rw [List.map_append, Path.keys, List.map_append, List.mem_append]
      exact not_or.mpr ⟨last, same ▸ apart⟩

end Updated

def Finding.loads (finding : Finding) (path : Path) : List (Path × Nat) :=
  match finding with
  | loaded _ candidates => [(path, candidates.length)]
  | _ => []

theorem Finding.loaded_addTo (finding : Finding) (path : Path) (report : Report) :
    (finding.addTo path report).loaded = report.loaded ++ finding.loads path := by
  cases finding <;> simp [addTo, loads]

theorem Updated.storeIn {earlier cache : Cache} {loads : List (Path × Nat)} (updated : Updated earlier loads cache)
    (finding : Finding) (path : Path) : Updated earlier (loads ++ finding.loads path) (finding.storeIn path cache) := by
  cases finding with
  | loaded modified candidates => exact updated.insert ⟨path, modified, candidates⟩
  | _ => simpa [Finding.loads, Finding.storeIn] using updated

def loadedBy : Except Error Report → List (Path × Nat)
  | .ok report => report.loaded
  | .error error => error.progress.loaded

end Cache

def Call.Worked (calls : List Call) (loaded : List (Path × Nat)) (later : List Call) : Prop :=
  ∃ new, later = calls ++ new ∧ notes new = [] ∧ asides new = [] ∧ loads new = loaded

namespace Call.Worked

variable {α : Type} {calls middle later : List Call} {loaded more : List (Path × Nat)} {call : Call}

theorem nothing (calls : List Call) : Worked calls [] calls := ⟨[], by simp, rfl, rfl, rfl⟩

theorem trans (first : Worked calls loaded middle) (second : Worked middle more later) :
    Worked calls (loaded ++ more) later := by
  obtain ⟨new, rfl, notes, asides, rfl⟩ := first
  obtain ⟨newer, rfl, notesToo, asidesToo, rfl⟩ := second
  exact ⟨new ++ newer, by simp, by simp [notes, notesToo], by simp [asides, asidesToo], by simp⟩

theorem quietly (first : Worked calls loaded middle) (second : Worked middle [] later) : Worked calls loaded later := by
  simpa only [List.append_nil] using first.trans second

theorem reports (calls : List Call) (items : List α) (severity : α → Severity) (text : α → String) :
    Worked calls [] (calls ++ items.map fun item => .noted (.report (severity item) (text item))) := by
  refine ⟨_, rfl, ?_, ?_, ?_⟩
  · simp [notes, own]
  · simp [asides, said]
  · simp [loads, load?, Function.comp_def]

theorem one (calls : List Call) (own : call.own = []) (said : call.said = []) :
    Worked calls call.load?.toList (calls ++ [call]) :=
  ⟨[call], rfl, by simp [notes, own], by simp [asides, said], by cases loaded : call.load? <;> simp [loads, loaded]⟩

end Call.Worked

namespace Outside

open Call (Worked)

variable {σ α : Type} {outside : Outside σ} {path : Path} {paths : List Path} {known : Option Entry}
  {finding : Cache.Finding} {report final : Cache.Report} {cache after : Cache} {error : Cache.Error}
  {start world : σ × List Call} {next last : σ × List Call} {calls : List Call}

theorem forM_notes (outside : Outside σ) (items : List α) (note : α → Note) (world : σ × List Call) :
    ((items.forM fun item => outside.watched.note (note item)).run world).2.2 =
      world.2 ++ items.map fun item => .noted (note item) := by
  induction items generalizing world with
  | nil => exact (List.append_nil _).symm
  | cons item rest ih =>
    rw [List.forM, Cache.run_bind, ih, watched, calling_run, List.map_cons, List.append_assoc]
    rfl

theorem worked_look (run : (Cache.look outside.watched.toSupply path known).run world = (finding, next)) :
    Worked world.2 (finding.loads path) next.2 := by
  have debug : ∀ text calls, Worked calls [] (calls ++ [.noted (.report .debug text)]) := fun text calls =>
    .one calls rfl rfl
  have asked : ∀ answer calls, Worked calls [] (calls ++ [.asked path answer]) := fun answer calls =>
    .one calls rfl rfl
  have read : ∀ answer calls, Worked calls (Call.read path answer).load?.toList (calls ++ [.read path answer]) :=
    fun answer calls => .one calls rfl rfl
  simp only [Cache.look, Cache.run_bind, watched, calling_run, Cache.debug] at run
  rcases answer : (outside.modified path).run world.1 with ⟨failure | modified, reached⟩
  · simp only [answer] at run
    cases run
    exact (asked _ _).trans (debug _ _)
  · cases fresh : known.any (·.isFresh modified) with
    | true =>
      simp only [answer, fresh, if_true] at run
      cases run
      exact asked _ _
    | false =>
      simp only [answer, fresh, Bool.false_eq_true, if_false, Cache.run_bind, calling_run] at run
      rcases content : (outside.load path).run reached with ⟨cause | candidates, reached⟩
      · simp only [content] at run
        cases run
        exact (asked _ _).trans (read _ _)
      · simp only [content] at run
        cases run
        exact (asked _ _).trans ((read _ _).trans (debug _ _))

theorem worked_bringUp (run : (Cache.bringUp outside.watched.toSupply paths {} cache).run world =
    ((.ok final, after), next)) :
    Worked world.2 final.loaded next.2 ∧ cache.Updated final.loaded after := by
  refine Cache.bringUp_invariant
    (fun _ report now later => Worked world.2 report.loaded later.2 ∧ cache.Updated report.loaded now)
    ?_ [] ⟨.nothing _, .nothing fun _ => rfl⟩ run
  rintro _ path report now later finding next - ⟨worked, updated⟩ found -
  rw [Cache.Finding.loaded_addTo]
  exact ⟨worked.trans (worked_look found), updated.storeIn finding path⟩

theorem worked_refresh (outside : Outside σ) (paths : List Path) (cache : Cache) (world : σ × List Call) :
    let run := (cache.refresh outside.watched.toSupply paths).run world
    Worked world.2 (Cache.loadedBy run.1.1) run.2.2 ∧ cache.Updated (Cache.loadedBy run.1.1) run.1.2 := by
  intro run
  have start : ∀ loads now, Cache.Updated (cache.startRefresh paths) loads now → cache.Updated loads now := by
    intro loads now updated path entry found
    simpa only [Cache.get?_startRefresh] using updated path entry found
  rcases looks : (Cache.bringUp outside.watched.toSupply paths {} (cache.startRefresh paths)).run world with
    ⟨⟨error | report, ready⟩, next⟩
  -- The look that fails may have asked for something, but has not loaded it.
  · obtain ⟨before, rest, reached, -, earlier, refused⟩ := Cache.bringUp_error looks
    obtain ⟨worked, updated⟩ := worked_bringUp earlier
    have whole : run = ((.error error, ready), next) := Cache.refresh_error.mpr looks
    have further : Worked reached.2 [] next.2 := worked_look refused
    rw [whole]
    exact ⟨worked.quietly further, start _ _ updated⟩
  · obtain ⟨worked, updated⟩ := worked_bringUp looks
    have outcome : run.1 = (.ok { report with evicted := ready.idlePaths }, ready.removeAll ready.idlePaths) :=
      Cache.refresh_ok looks
    have quiet : Worked next.2 [] run.2.2 := by
      simp only [run, Cache.refresh, Cache.run_bind, looks, Cache.evict]
      show Worked next.2 [] (((ready.idlePaths.forM fun path => outside.watched.note
        (.report .debug ("Evicting idle tag file " ++ path.text))).run next).2.2 ++ [.noted (.report .information _)])
      rw [forM_notes]
      exact (Worked.reports next.2 ready.idlePaths _ _).quietly (.one _ rfl rfl)
    rw [outcome]
    refine ⟨?_, start _ _ (updated.of_get? fun path entry found => ?_)⟩
    · exact worked.quietly quiet
    · rw [Cache.get?_removeAll] at found
      split at found
      · cases found
      · exact found

end Outside

end TagMenu
