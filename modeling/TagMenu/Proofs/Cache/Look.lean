import Mathlib
import TagMenu.Proofs.Cache.Lookup

namespace TagMenu

open Disk (Timestamp)

inductive Supply.Leads {σ : Type} (supply : Supply (StateM σ)) (world : σ) : σ → Prop
  | nowhere : Leads supply world world
  | modified {later next : σ} {path : Path} {answer : Except Disk.Failure Timestamp}
      (led : Leads supply world later) (run : (supply.modified path).run later = (answer, next)) :
      Leads supply world next
  | load {later next : σ} {path : Path} {answer : Except TagFile.Error (List Candidate)}
      (led : Leads supply world later) (run : (supply.load path).run later = (answer, next)) :
      Leads supply world next
  | note {later : σ} (led : Leads supply world later) (note : Note) :
      Leads supply world ((supply.note note).run later).2

namespace Cache

inductive Finding where
  | missing
  | current
  | loaded (modified : Timestamp) (candidates : List Candidate)
  | refused (cause : TagFile.Error)
deriving DecidableEq, Repr

namespace Finding

def addTo (finding : Finding) (path : Path) (report : Report) : Report :=
  match finding with
  | missing => { report with skipped := report.skipped ++ [path] }
  | current => { report with unchanged := report.unchanged + 1 }
  | loaded _ candidates => { report with loaded := report.loaded ++ [(path, candidates.length)] }
  | refused _ => report

def storeIn (finding : Finding) (path : Path) (cache : Cache) : Cache :=
  match finding with
  | loaded modified candidates => cache.insert ⟨path, modified, candidates⟩
  | _ => cache

def Accepted (finding : Finding) : Prop := ∀ cause, finding ≠ refused cause

theorem accepted_or_refused (finding : Finding) : finding.Accepted ∨ ∃ cause, finding = refused cause := by
  by_cases accepted : finding.Accepted
  · exact .inl accepted
  · exact .inr (by simpa [Accepted] using accepted)

end Finding

section

variable {m : Type → Type} [Monad m]

def look (supply : Supply m) (path : Path) (known : Option Entry) : m Finding := do
  match ← supply.modified path with
  | .error failure =>
    debug supply ("Skipping tag file " ++ path.text ++ ": " ++ failure.message)
    return .missing
  | .ok modified =>
    if known.any (·.isFresh modified) then return .current
    else
      match ← supply.load path with
      | .error cause => return .refused cause
      | .ok candidates =>
        debug supply ("Loaded " ++ path.text ++ " with " ++ toString candidates.length ++ " tags")
        return .loaded modified candidates

def goOn (supply : Supply m) (path : Path) (rest : List Path) (report : Report) (cache : Cache) :
    Finding → m (Except Error Report × Cache)
  | .refused cause => return (.error ⟨path, cause, report⟩, cache)
  | finding => bringUp supply rest (finding.addTo path report) (finding.storeIn path cache)

theorem bringUp_bind [LawfulMonad m] (supply : Supply m) (path : Path) (rest : List Path) (report : Report)
    (cache : Cache) :
    bringUp supply (path :: rest) report cache =
      look supply path (cache.get? path) >>= goOn supply path rest report cache := by
  simp only [bringUp, look, bind_assoc]
  congr 1
  funext answer
  cases answer with
  | error failure => simp only [bind_assoc, pure_bind, goOn, Finding.addTo, Finding.storeIn]
  | ok modified =>
    by_cases fresh : (cache.get? path).any (·.isFresh modified) = true
    · simp only [fresh, if_true, pure_bind, goOn, Finding.addTo, Finding.storeIn]
    · simp only [fresh, Bool.false_eq_true, if_false, bind_assoc]
      congr 1
      funext loaded
      cases loaded <;> simp only [bind_assoc, pure_bind, goOn, Finding.addTo, Finding.storeIn]

end

variable {σ : Type} {supply : Supply (StateM σ)} {path : Path} {paths : List Path} {known : Option Entry}
  {finding : Finding} {report final : Report} {cache after : Cache} {error : Error} {start world next last : σ}

theorem run_bind {α β : Type} (act : StateM σ α) (rest : α → StateM σ β) (world : σ) :
    (act >>= rest).run world = (rest (act.run world).1).run (act.run world).2 := rfl

inductive Looked (supply : Supply (StateM σ)) (path : Path) (known : Option Entry) (world : σ) :
    Finding → σ → Prop
  | missing {failure : Disk.Failure} {asked : σ} (note : Note)
      (answer : (supply.modified path).run world = (.error failure, asked)) :
      Looked supply path known world .missing ((supply.note note).run asked).2
  | current {modified : Timestamp} {asked : σ}
      (answer : (supply.modified path).run world = (.ok modified, asked))
      (fresh : known.any (·.isFresh modified) = true) :
      Looked supply path known world .current asked
  | refused {modified : Timestamp} {cause : TagFile.Error} {asked read : σ}
      (answer : (supply.modified path).run world = (.ok modified, asked))
      (stale : known.any (·.isFresh modified) = false)
      (content : (supply.load path).run asked = (.error cause, read)) :
      Looked supply path known world (.refused cause) read
  | loaded {modified : Timestamp} {candidates : List Candidate} {asked read : σ} (note : Note)
      (answer : (supply.modified path).run world = (.ok modified, asked))
      (stale : known.any (·.isFresh modified) = false)
      (content : (supply.load path).run asked = (.ok candidates, read)) :
      Looked supply path known world (.loaded modified candidates) ((supply.note note).run read).2

theorem look_cases (run : (look supply path known).run world = (finding, next)) :
    Looked supply path known world finding next := by
  simp only [look, run_bind] at run
  rcases answer : (supply.modified path).run world with ⟨failure | modified, asked⟩
  · simp only [answer, run_bind, StateT.run_pure] at run
    cases run
    exact .missing _ answer
  · cases fresh : known.any (·.isFresh modified) with
    | true =>
      simp only [answer, fresh, if_true, StateT.run_pure] at run
      cases run
      exact .current answer fresh
    | false =>
      simp only [answer, fresh, Bool.false_eq_true, if_false, run_bind] at run
      rcases content : (supply.load path).run asked with ⟨cause | candidates, read⟩
      · simp only [content, StateT.run_pure] at run
        cases run
        exact .refused answer fresh content
      · simp only [content, run_bind, StateT.run_pure] at run
        cases run
        exact .loaded _ answer fresh content

theorem leads_trans (led : supply.Leads start world) (further : supply.Leads world next) :
    supply.Leads start next := by
  induction further with
  | nowhere => exact led
  | modified _ run ih => exact ih.modified run
  | load _ run ih => exact ih.load run
  | note _ note ih => exact ih.note note

theorem Looked.leads (looked : Looked supply path known world finding next) (led : supply.Leads start world) :
    supply.Leads start next := by
  cases looked with
  | missing note answer => exact (led.modified answer).note note
  | current answer fresh => exact led.modified answer
  | refused answer stale content => exact (led.modified answer).load content
  | loaded note answer stale content => exact ((led.modified answer).load content).note note

def Report.looked (report : Report) : Nat := report.loaded.length + report.unchanged + report.skipped.length

theorem Finding.Accepted.looked_addTo (accepted : finding.Accepted) (path : Path) (report : Report) :
    (finding.addTo path report).looked = report.looked + 1 := by
  cases finding with
  | refused cause => exact absurd rfl (accepted cause)
  | _ =>
    simp only [Finding.addTo, Report.looked, List.length_append, List.length_singleton]
    omega

theorem bringUp_nil : (bringUp supply [] report cache).run world = ((.ok report, cache), world) := rfl

theorem bringUp_cons (path : Path) (rest : List Path) :
    (bringUp supply (path :: rest) report cache).run world =
      (goOn supply path rest report cache ((look supply path (cache.get? path)).run world).1).run
        ((look supply path (cache.get? path)).run world).2 := by
  rw [bringUp_bind, run_bind]

theorem goOn_accepted (accepted : finding.Accepted) (path : Path) (rest : List Path) :
    goOn supply path rest report cache finding =
      bringUp supply rest (finding.addTo path report) (finding.storeIn path cache) := by
  cases finding with
  | refused cause => exact absurd rfl (accepted cause)
  | _ => rfl

theorem bringUp_invariant (Inv : List Path → Report → Cache → σ → Prop)
    (keeps : ∀ done path report cache world finding next, path ∈ paths → Inv done report cache world →
      (look supply path (cache.get? path)).run world = (finding, next) → finding.Accepted →
      Inv (done ++ [path]) (finding.addTo path report) (finding.storeIn path cache) next)
    (done : List Path) (start : Inv done report cache world)
    (run : (bringUp supply paths report cache).run world = ((.ok final, after), last)) :
    Inv (done ++ paths) final after last := by
  induction paths generalizing done report cache world with
  | nil =>
    rw [bringUp_nil] at run
    cases run
    simpa using start
  | cons path rest ih =>
    rcases found : (look supply path (cache.get? path)).run world with ⟨finding, next⟩
    rw [bringUp_cons, found] at run
    rcases finding.accepted_or_refused with accepted | ⟨cause, rfl⟩
    · rw [goOn_accepted accepted] at run
      have step := keeps done path report cache world finding next (by simp) start found accepted
      have tail := ih (fun done path report cache world finding next member =>
        keeps done path report cache world finding next (List.mem_cons_of_mem _ member)) _ step run
      simpa using tail
    · cases run

theorem bringUp_keeps (Inv : Cache → Prop) (insert : ∀ cache entry, Inv cache → Inv (cache.insert entry))
    (kept : Inv cache) (run : (bringUp supply paths report cache).run world = ((.ok final, after), last)) :
    Inv after := by
  refine bringUp_invariant (fun _ _ cache _ => Inv cache) ?_ [] kept run
  intro _ path _ cache _ finding _ _ kept _ _
  cases finding with
  | loaded modified candidates => exact insert cache _ kept
  | _ => exact kept

theorem bringUp_error (run : (bringUp supply paths report cache).run world = ((.error error, after), last)) :
    ∃ before rest next, paths = before ++ error.path :: rest ∧
      (bringUp supply before report cache).run world = ((.ok error.progress, after), next) ∧
      (look supply error.path (after.get? error.path)).run next = (.refused error.cause, last) := by
  induction paths generalizing report cache world with
  | nil =>
    rw [bringUp_nil] at run
    cases run
  | cons path rest ih =>
    rcases found : (look supply path (cache.get? path)).run world with ⟨finding, next⟩
    rw [bringUp_cons, found] at run
    rcases finding.accepted_or_refused with accepted | ⟨cause, rfl⟩
    · rw [goOn_accepted accepted] at run
      obtain ⟨before, behind, reached, rfl, earlier, failed⟩ := ih run
      refine ⟨path :: before, behind, reached, rfl, ?_, failed⟩
      rw [bringUp_cons, found, goOn_accepted accepted]
      exact earlier
    · cases run
      exact ⟨[], rest, world, rfl, bringUp_nil, found⟩

theorem refresh_error :
    (refresh supply paths cache).run world = ((.error error, after), last) ↔
      (bringUp supply paths {} (cache.startRefresh paths)).run world = ((.error error, after), last) := by
  rcases run : (bringUp supply paths {} (cache.startRefresh paths)).run world with
    ⟨⟨failed | report, ready⟩, next⟩
  · simp only [refresh, run_bind, run, StateT.run_pure]
    rfl
  · simp only [refresh, run_bind, run, StateT.run_pure]
    constructor <;> intro impossible <;> cases impossible

theorem refresh_ok
    (looks : (bringUp supply paths {} (cache.startRefresh paths)).run world = ((.ok report, after), next)) :
    ((refresh supply paths cache).run world).1 =
      (.ok { report with evicted := after.idlePaths }, after.removeAll after.idlePaths) := by
  simp only [refresh, run_bind, looks, evict, StateT.run_pure]
  rfl

theorem refresh_ok_cases (run : ((refresh supply paths cache).run world).1 = (.ok final, after)) :
    ∃ report ready next,
      (bringUp supply paths {} (cache.startRefresh paths)).run world = ((.ok report, ready), next) ∧
      final = { report with evicted := ready.idlePaths } ∧ after = ready.removeAll ready.idlePaths := by
  rcases looks : (bringUp supply paths {} (cache.startRefresh paths)).run world with
    ⟨⟨failed | report, ready⟩, next⟩
  · rw [refresh_error.mpr looks] at run
    cases run
  · rw [refresh_ok looks] at run
    cases run
    exact ⟨report, ready, next, rfl, rfl, rfl⟩

theorem leads_bringUp (led : supply.Leads start world)
    (run : (bringUp supply paths report cache).run world = ((.ok final, after), next)) : supply.Leads start next :=
  bringUp_invariant (fun _ _ _ later => supply.Leads start later)
    (fun _ _ _ _ _ _ _ _ led found _ => (look_cases found).leads led) [] led run

theorem leads_evict (led : supply.Leads start world) (report : Report) (cache : Cache) :
    supply.Leads start ((evict supply report cache).run world).2 := by
  rw [evict, run_bind]
  show supply.Leads start
    ((cache.idlePaths.forM fun path => debug supply ("Evicting idle tag file " ++ path.text)).run world).2
  induction cache.idlePaths generalizing world with
  | nil => exact led
  | cons path rest ih => exact ih (led.note _)

/-- Whether or not it succeeds, a refresh looks at a first part of its list without a failure. It then
    drops something, or nothing, and is at its end after some further questions. -/
theorem refresh_cases (supply : Supply (StateM σ)) (paths : List Path) (cache : Cache) (world : σ) :
    ∃ looked rest report ready next dropped, paths = looked ++ rest ∧
      (bringUp supply looked {} (cache.startRefresh paths)).run world = ((.ok report, ready), next) ∧
      ((refresh supply paths cache).run world).1.2 = ready.removeAll dropped ∧
      supply.Leads next ((refresh supply paths cache).run world).2 := by
  rcases looks : (bringUp supply paths {} (cache.startRefresh paths)).run world with
    ⟨⟨error | report, ready⟩, next⟩
  · obtain ⟨before, rest, reached, split, earlier, refused⟩ := bringUp_error looks
    rw [refresh_error.mpr looks]
    exact ⟨before, error.path :: rest, _, ready, reached, [], split, earlier, rfl,
      (look_cases refused).leads .nowhere⟩
  · refine ⟨paths, [], report, ready, next, ready.idlePaths, (List.append_nil paths).symm, looks, ?_, ?_⟩
    · rw [refresh_ok looks]
    · simp only [refresh, run_bind, looks]
      exact (leads_evict .nowhere report ready).note _

theorem leads_refresh (led : supply.Leads start world) (paths : List Path) (cache : Cache) :
    supply.Leads start ((refresh supply paths cache).run world).2 := by
  obtain ⟨_, _, _, _, _, _, -, looks, -, further⟩ := refresh_cases supply paths cache world
  exact leads_trans (leads_bringUp led looks) further

end Cache

end TagMenu
