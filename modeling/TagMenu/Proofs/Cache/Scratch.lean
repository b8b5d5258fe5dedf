import Mathlib
import TagMenu.Proofs.Cache.Fixed
import TagMenu.Proofs.Cache.Settled

namespace TagMenu

open Disk (Timestamp)

namespace TagFile

variable {names : Unicode.NameTable} {left right : Path}

theorem readLines_path {number : Nat} {lines : List (List Char)} {candidates : List Candidate}
    (read : readLines names left number lines = .ok candidates) :
    readLines names right number lines = .ok candidates := by
  induction lines generalizing number candidates with
  | nil => exact read
  | cons line rest ih =>
    rw [readLines] at read ⊢
    cases parsed : Line.read names (String.ofList line) with
    | error error =>
      simp only [parsed] at read
      cases read
    | ok candidate =>
      cases candidate with
      | none =>
        simp only [parsed] at read ⊢
        exact ih read
      | some candidate =>
        simp only [parsed] at read ⊢
        cases tail : readLines names left (number + 1) rest with
        | error error =>
          rw [tail] at read
          cases read
        | ok others =>
          rw [tail] at read
          rw [ih tail]
          exact read

theorem readOctets_path {content : ByteArray} {candidates : List Candidate}
    (read : readOctets names left content = .ok candidates) : readOctets names right content = .ok candidates :=
  readLines_path read

end TagFile

namespace Cache

variable {σ : Type} {host : Host (StateM σ)} {supply : Supply (StateM σ)} {names : Unicode.NameTable}
  {policy : Eviction} {cache after : Cache} {entry : Entry} {path left right : Path} {paths : List Path}
  {report final : Report} {world later next last : σ} {seen more : List σ}

theorem loadTags_run : ((host.loadTags names path).run world).1 = host.tags names world path := by
  rw [Host.loadTags, run_bind, Host.tags, Host.content]
  rcases (host.read path).run world with ⟨failure | content, read⟩
  · rfl
  · cases parsed : TagFile.readOctets names path content <;> simp only [parsed] <;> rfl

theorem time_of_led (still : host.Still names world) (led : (host.supply names).Leads world later) :
    (host.supply names).time later path = host.time world path :=
  congrFun (still later led).1 path

theorem tags_of_led (still : host.Still names world) (led : (host.supply names).Leads world later) :
    host.tags names later path = host.tags names world path := by
  rw [Host.tags, Host.tags, (still later led).2]

theorem oneTime_supply (oneFile : host.OneFile world) (names : Unicode.NameTable) :
    (host.supply names).OneTime world :=
  fun left right earlier later same before now => (oneFile left right earlier later same before now).1

theorem progress_of_still (still : host.Still names world) (oneFile : host.OneFile world)
    (run : (bringUp (host.supply names) paths {} cache).run world = ((.ok final, after), last)) :
    (host.supply names).Leads world last ∧ Progress (host.supply names) world cache paths final after :=
  progress_bringUp (fun later led => (still later led).1) (oneTime_supply oneFile names) run

theorem found_of_led (still : host.Still names world) (led : (host.supply names).Leads world later)
    {known : Option Entry} {modified : Timestamp} {candidates : List Candidate}
    (found : (look (host.supply names) path known).run later = (.loaded modified candidates, next)) :
    host.time world path = .ok modified ∧ host.tags names world path = .ok candidates := by
  cases look_cases found with
  | loaded note answer stale content =>
    have asked := led.modified answer
    refine ⟨(time_of_led still led).symm.trans (congrArg Prod.fst answer), ?_⟩
    rw [← tags_of_led still asked, ← loadTags_run]
    exact congrArg Prod.fst content

structure ReadFrom (host : Host (StateM σ)) (names : Unicode.NameTable) (world : σ) (entry : Entry) : Prop where
  time : host.time world entry.path = .ok entry.modified
  tags : host.tags names world entry.path = .ok entry.candidates

def Known (host : Host (StateM σ)) (names : Unicode.NameTable) (seen : List σ) (cache : Cache) : Prop :=
  ∀ path entry, cache.get? path = some entry → entry.path.key = path.key ∧
    ∃ world ∈ seen, ReadFrom host names world entry

theorem Known.of_get? (known : Known host names seen cache)
    (fewer : ∀ path entry, after.get? path = some entry → cache.get? path = some entry) (wider : seen ⊆ more) :
    Known host names more after :=
  (Every.of_get? known fewer).imp fun _ ⟨world, member, read⟩ => ⟨world, wider member, read⟩

theorem Known.empty (policy : Eviction) : Known host names seen { policy } := Every.empty policy

theorem Known.insert (known : Known host names seen cache) (member : world ∈ seen)
    (read : ReadFrom host names world entry) : Known host names seen (cache.insert entry) :=
  Every.insert known ⟨world, member, read⟩

theorem Known.bringUp (known : Known host names seen cache) (still : host.Still names world) (member : world ∈ seen)
    (run : (bringUp (host.supply names) paths report cache).run world = ((.ok final, after), last)) :
    Known host names seen after := by
  refine (bringUp_invariant
    (fun _ _ now later => (host.supply names).Leads world later ∧ Known host names seen now)
    ?_ [] ⟨.nowhere, known⟩ run).2
  rintro done path report now later finding next - ⟨led, known⟩ found -
  refine ⟨(look_cases found).leads led, ?_⟩
  cases finding with
  | loaded modified candidates =>
    obtain ⟨time, tags⟩ := found_of_led still led found
    exact known.insert member ⟨time, tags⟩
  | _ => exact known

theorem Known.refresh (known : Known host names seen cache) (still : host.Still names world)
    (member : world ∈ seen) :
    Known host names seen ((refresh (host.supply names) paths cache).run world).1.2 := by
  have started : Known host names seen (cache.startRefresh paths) := Every.startRefresh known paths
  obtain ⟨_, _, _, ready, _, dropped, -, looks, after, -⟩ := refresh_cases (host.supply names) paths cache world
  rw [after]
  exact Every.removeAll (started.bringUp still member looks) dropped

/-- Requests that put nothing into a cache but what a refresh has read. -/
def OnlyRefreshed (history : History σ) : Prop := ∀ entry, .insert entry ∉ history

theorem known_cacheAfter {history : History σ} (only : OnlyRefreshed history)
    (still : ∀ world ∈ worlds history, host.Still names world) :
    Known host names (worlds history) (cacheAfter (host.supply names) policy history) := by
  induction history with
  | nil => exact .empty policy
  | cons request past ih =>
    have before := ih (fun entry member => only entry (List.mem_cons_of_mem _ member))
    cases request with
    | insert entry => exact absurd (List.mem_cons_self ..) (only entry)
    | refresh world paths =>
      have earlier := before fun world member => still world (List.mem_cons_of_mem _ member)
      exact (earlier.of_get? (fun _ _ found => found) (List.subset_cons_self ..)).refresh
        (still world (List.mem_cons_self ..)) (List.mem_cons_self ..)
    | remove path => exact Every.remove (before still) path
    | clear => exact Every.clear _

theorem content_of_tags {candidates : List Candidate} (tags : host.tags names world path = .ok candidates) :
    ∃ content, host.content world path = .ok content ∧ TagFile.readOctets names path content = .ok candidates := by
  rw [Host.tags] at tags
  cases found : host.content world path with
  | error failure =>
    rw [found] at tags
    cases tags
  | ok content =>
    rw [found] at tags
    exact ⟨content, rfl, tags⟩

theorem tags_congr (oneFile : host.OneFile world) (same : left.key = right.key) {earlier later : Timestamp}
    (before : host.time world left = .ok earlier) (now : host.time world right = .ok later)
    {candidates : List Candidate} (tags : host.tags names world left = .ok candidates) :
    host.tags names world right = .ok candidates := by
  obtain ⟨content, read, parsed⟩ := content_of_tags tags
  rw [Host.tags, ← (oneFile left right earlier later same before now).2, read]
  exact TagFile.readOctets_path parsed

theorem tags_supply (path : Path) : (host.supply names).tags world path = host.tags names world path := loadTags_run

theorem fixed_supply (still : host.Still names world) (oneFile : host.OneFile world) :
    (host.supply names).Fixed world := by
  constructor
  · exact fun later led => (still later led).1
  · intro later led
    funext path
    rw [tags_supply, tags_supply, tags_of_led still led]
  · exact oneTime_supply oneFile names
  · intro left right earlier later candidates same before now tags
    rw [tags_supply] at tags ⊢
    exact tags_congr oneFile same before now tags

theorem succeeds_iff (still : host.Still names world) (oneFile : host.OneFile world) :
    Succeeds (host.supply names) paths cache world ↔ ∀ path ∈ paths, ∀ modified,
      host.time world path = .ok modified → (cache.get? path).any (·.isFresh modified) = true ∨
        ∃ candidates, host.tags names world path = .ok candidates := by
  refine (succeeds_iff_loads (fixed_supply still oneFile)).trans ?_
  simp only [tags_supply]
  rfl

theorem Known.of_fresh (known : Known host names seen cache) {modified : Timestamp}
    (fresh : (cache.get? path).any (·.isFresh modified) = true) :
    ∃ entry content, ∃ earlier ∈ seen, cache.get? path = some entry ∧ entry.path.key = path.key ∧
      entry.modified = modified ∧ host.time earlier entry.path = .ok modified ∧
      host.content earlier entry.path = .ok content ∧
      TagFile.readOctets names entry.path content = .ok entry.candidates := by
  obtain ⟨entry, found, current⟩ := (Option.any_eq_true _ _).mp fresh
  obtain ⟨same, earlier, before, read⟩ := known path entry found
  obtain rfl : entry.modified = modified := by simpa [Entry.isFresh] using current
  obtain ⟨content, old, parsed⟩ := content_of_tags read.tags
  exact ⟨entry, content, earlier, before, found, same, rfl, read.time, old, parsed⟩

theorem Known.current (known : Known host names seen cache) (timesTell : host.TimesTell seen)
    (member : world ∈ seen) {modified : Timestamp} (time : host.time world path = .ok modified)
    (fresh : (cache.get? path).any (·.isFresh modified) = true) {content : ByteArray}
    (readable : host.content world path = .ok content) :
    ∃ entry, cache.get? path = some entry ∧ entry.modified = modified ∧
      host.tags names world path = .ok entry.candidates := by
  obtain ⟨entry, old, earlier, before, found, same, unchanged, timeThen, oldRead, parsed⟩ := known.of_fresh fresh
  obtain rfl : old = content :=
    timesTell earlier before world member _ _ modified old content same timeThen time oldRead readable
  refine ⟨entry, found, unchanged, ?_⟩
  rw [Host.tags, readable]
  exact TagFile.readOctets_path parsed

theorem entry_of_succeeds (known : Known host names seen cache) (settled : host.Settled names seen)
    (member : world ∈ seen) (succeeds : Succeeds (host.supply names) paths cache world) (listed : path ∈ paths)
    {modified : Timestamp} (time : host.time world path = .ok modified) {content : ByteArray}
    (readable : host.content world path = .ok content) :
    ∃ entry, ((refresh (host.supply names) paths cache).run world).1.2.get? path = some entry ∧
      entry.modified = modified ∧ host.tags names world path = .ok entry.candidates := by
  have still := settled.still world member
  obtain ⟨report, ready, next, run, after⟩ := succeeds_cases succeeds
  obtain ⟨-, progress⟩ := progress_of_still still (settled.oneFile world member) run
  have kept : ((refresh (host.supply names) paths cache).run world).1.2.get? path = ready.get? path := by
    rw [after, get?_removeAll, if_neg (idlePaths_unlisted run _ (List.mem_map_of_mem listed))]
  refine (known.refresh still member).current settled.timesTell member time ?_ readable
  rw [kept]
  exact progress.current path listed modified time

theorem succeeds_scratch_iff (still : host.Still names world) (oneFile : host.OneFile world) (policy : Eviction) :
    Succeeds (host.supply names) paths { policy } world ↔ ∀ path ∈ paths, ∀ modified,
      host.time world path = .ok modified → ∃ candidates, host.tags names world path = .ok candidates := by
  rw [succeeds_iff still oneFile]
  simp only [get?_empty, Option.any_none, Bool.false_eq_true, false_or]

theorem allReadable_of_scratch (still : host.Still names world) (oneFile : host.OneFile world)
    (scratch : Succeeds (host.supply names) paths { policy } world) : host.AllReadable world paths := by
  intro path listed modified time
  obtain ⟨candidates, tags⟩ := (succeeds_scratch_iff still oneFile policy).mp scratch path listed modified time
  obtain ⟨content, read, -⟩ := content_of_tags tags
  exact ⟨content, read⟩

theorem succeeds_of_scratch (still : host.Still names world) (oneFile : host.OneFile world) (cache : Cache)
    (scratch : Succeeds (host.supply names) paths { policy } world) :
    Succeeds (host.supply names) paths cache world :=
  (succeeds_iff still oneFile).mpr fun path listed modified time =>
    .inr ((succeeds_scratch_iff still oneFile policy).mp scratch path listed modified time)

theorem scratch_of_succeeds (known : Known host names seen cache) (settled : host.Settled names seen)
    (member : world ∈ seen) (policy : Eviction) (succeeds : Succeeds (host.supply names) paths cache world)
    (readable : host.AllReadable world paths) : Succeeds (host.supply names) paths { policy } world := by
  have still := settled.still world member
  have oneFile := settled.oneFile world member
  refine (succeeds_scratch_iff still oneFile policy).mpr fun path listed modified time => ?_
  rcases (succeeds_iff still oneFile).mp succeeds path listed modified time with fresh | tags
  · obtain ⟨content, read⟩ := readable path listed modified time
    obtain ⟨entry, -, -, tags⟩ := known.current settled.timesTell member time fresh read
    exact ⟨_, tags⟩
  · exact tags

theorem allReadable_of_succeeds (known : Known host names seen cache) (settled : host.Settled names seen)
    (stay : host.StayReadable seen) (member : world ∈ seen)
    (succeeds : Succeeds (host.supply names) paths cache world) : host.AllReadable world paths := by
  intro path listed modified time
  have each := (succeeds_iff (settled.still world member) (settled.oneFile world member)).mp succeeds
  rcases each path listed modified time with fresh | ⟨candidates, tags⟩
  · obtain ⟨entry, old, earlier, before, -, same, -, timeThen, oldRead, -⟩ := known.of_fresh fresh
    exact stay earlier before world member _ _ modified old same timeThen time oldRead
  · obtain ⟨content, read, -⟩ := content_of_tags tags
    exact ⟨content, read⟩

/-- How a refresh of `cache` has to do with a refresh of the same files that starts from nothing. -/
structure AgreesWithScratch (host : Host (StateM σ)) (names : Unicode.NameTable) (policy : Eviction) (seen : List σ)
    (cache : Cache) (world : σ) (paths : List Path) : Prop where
  succeeds : Succeeds (host.supply names) paths { policy } world ↔
    Succeeds (host.supply names) paths cache world ∧ host.AllReadable world paths
  alike : host.StayReadable (world :: seen) →
    (Succeeds (host.supply names) paths { policy } world ↔ Succeeds (host.supply names) paths cache world)
  same : Succeeds (host.supply names) paths { policy } world → ∀ path ∈ paths, ∀ modified,
    host.time world path = .ok modified → ∃ entry scratch,
      ((refresh (host.supply names) paths cache).run world).1.2.get? path = some entry ∧
      ((refresh (host.supply names) paths { policy }).run world).1.2.get? path = some scratch ∧
      entry.modified = scratch.modified ∧ entry.candidates = scratch.candidates
  current : Succeeds (host.supply names) paths cache world → ∀ path ∈ paths, ∀ modified content,
    host.time world path = .ok modified → host.content world path = .ok content → ∃ entry,
      ((refresh (host.supply names) paths cache).run world).1.2.get? path = some entry ∧
      entry.modified = modified ∧ host.tags names world path = .ok entry.candidates

/-- After any refreshes, in whatever way the files changed between them, a refresh does as well as one
    from scratch, as long as times tell contents apart. Only a file that is current and that cannot be
    read any more makes a difference. -/
theorem refresh_agrees_with_scratch (host : Host (StateM σ)) (names : Unicode.NameTable) (policy : Eviction)
    (history : History σ) (world : σ) (paths : List Path) (only : OnlyRefreshed history)
    (settled : host.Settled names (world :: worlds history)) :
    AgreesWithScratch host names policy (worlds history) (cacheAfter (host.supply names) policy history) world
      paths := by
  have member : world ∈ world :: worlds history := List.mem_cons_self ..
  have still := settled.still world member
  have oneFile := settled.oneFile world member
  have known : Known host names (world :: worlds history) (cacheAfter (host.supply names) policy history) :=
    (known_cacheAfter only fun world member => settled.still world (List.mem_cons_of_mem _ member)).of_get?
      (fun _ _ found => found) (List.subset_cons_self ..)
  constructor
  · constructor
    · intro scratch
      exact ⟨succeeds_of_scratch still oneFile _ scratch, allReadable_of_scratch still oneFile scratch⟩
    · rintro ⟨succeeds, readable⟩
      exact scratch_of_succeeds known settled member policy succeeds readable
  · intro stay
    refine ⟨succeeds_of_scratch still oneFile _, fun succeeds => ?_⟩
    have readable := allReadable_of_succeeds known settled stay member succeeds
    exact scratch_of_succeeds known settled member policy succeeds readable
  · intro scratch path listed modified time
    have succeeds := succeeds_of_scratch still oneFile (cacheAfter (host.supply names) policy history) scratch
    obtain ⟨content, read⟩ := allReadable_of_scratch still oneFile scratch path listed modified time
    obtain ⟨entry, found, now, parsed⟩ := entry_of_succeeds known settled member succeeds listed time read
    obtain ⟨other, there, modifiedNow, again⟩ :=
      entry_of_succeeds (Known.empty policy) settled member scratch listed time read
    exact ⟨entry, other, found, there, now.trans modifiedNow.symm, Except.ok.inj (parsed.symm.trans again)⟩
  · intro succeeds path listed modified content time read
    exact entry_of_succeeds known settled member succeeds listed time read

theorem refresh_agrees_with_scratch_of_change :
    let before := Machine.holding (.file .empty ⟨1000, 0⟩)
    let after := Machine.holding (.file "f\tm\ts".toUTF8 ⟨2000, 0⟩)
    let history : History Machine := [.refresh before [⟨"t"⟩]]
    let names : Unicode.NameTable := fun _ => none
    OnlyRefreshed history ∧ Machine.host.Settled names (after :: worlds history) ∧
      AgreesWithScratch Machine.host names .retain (worlds history)
        (cacheAfter (Machine.host.supply names) .retain history) after [⟨"t"⟩] := by
  intro before after history names
  have only : OnlyRefreshed history := by simp [OnlyRefreshed, history]
  have settled : Machine.host.Settled names (after :: worlds history) := by
    refine Machine.settled ?_
    intro first inFirst second inSecond left right modified old new _ early late read again
    have different : (⟨2000, 0⟩ : Timestamp) ≠ ⟨1000, 0⟩ := by decide
    rcases List.mem_pair.mp inFirst with rfl | rfl <;> rcases List.mem_pair.mp inSecond with rfl | rfl <;>
      obtain ⟨rfl, times⟩ := Machine.content_holding_file read <;>
      obtain ⟨rfl, timesAgain⟩ := Machine.content_holding_file again
    · rfl
    · exact absurd (Except.ok.inj (times.symm.trans (early.trans (late.symm.trans timesAgain)))) different
    · exact absurd (Except.ok.inj (times.symm.trans (early.trans (late.symm.trans timesAgain)))) different.symm
    · rfl
  exact ⟨only, settled, refresh_agrees_with_scratch Machine.host names .retain history after [⟨"t"⟩] only settled⟩

/-- A directory has come in the place of a file, with the same time. The file is current in the cache,
    but it cannot be loaded from scratch. -/
theorem current_file_is_not_read :
    let file := Machine.holding (.file .empty ⟨1000, 0⟩)
    let directory := Machine.holding (.directory [] ⟨1000, 0⟩)
    let history : History Machine := [.refresh file [⟨"t"⟩]]
    let supply := Machine.host.supply fun _ => none
    OnlyRefreshed history ∧ Machine.host.Settled (fun _ => none) (directory :: worlds history) ∧
      Succeeds supply [⟨"t"⟩] (cacheAfter supply .retain history) directory ∧
      ¬ Succeeds supply [⟨"t"⟩] { policy := .retain } directory := by
  intro file directory history supply
  have only : OnlyRefreshed history := by simp [OnlyRefreshed, history]
  have settled : Machine.host.Settled (fun _ => none) (directory :: worlds history) := by
    refine Machine.settled ?_
    intro first inFirst second inSecond left right modified old new _ _ _ read again
    rcases List.mem_pair.mp inFirst with rfl | rfl
    · exact absurd read Machine.content_holding_directory
    · rcases List.mem_pair.mp inSecond with rfl | rfl
      · exact absurd again Machine.content_holding_directory
      · exact (Machine.content_holding_file read).1.trans (Machine.content_holding_file again).1.symm
  have seen : file ∈ directory :: worlds history := by simp [worlds, history]
  obtain ⟨fileTime, fileContent⟩ := Machine.answers_holding (.file .empty ⟨1000, 0⟩) (by simp)
  obtain ⟨directoryTime, directoryContent⟩ := Machine.answers_holding (.directory [] ⟨1000, 0⟩) (by simp)
  have tags : Machine.host.tags (fun _ => none) file ⟨"t"⟩ = .ok [] := by
    rw [Host.tags, fileContent]
    decide +kernel
  have loads : Succeeds supply [⟨"t"⟩] { policy := .retain } file :=
    (succeeds_iff Machine.still Machine.oneFile).mpr fun path listed _ _ =>
      .inr ⟨[], List.mem_singleton.mp listed ▸ tags⟩
  obtain ⟨entry, found, modified, -⟩ :=
    entry_of_succeeds (Known.empty .retain) settled seen loads (List.mem_singleton_self _) fileTime fileContent
  refine ⟨only, settled, ?_, fun scratch => ?_⟩
  · refine (succeeds_iff Machine.still Machine.oneFile).mpr fun path listed later time => .inl ?_
    rw [List.mem_singleton.mp listed] at time ⊢
    rw [directoryTime] at time
    cases time
    have known : (cacheAfter supply .retain history).get? ⟨"t"⟩ = some entry := found
    simp [known, Entry.isFresh, modified]
  · obtain ⟨content, read⟩ := allReadable_of_scratch Machine.still Machine.oneFile scratch _
      (List.mem_singleton_self _) _ directoryTime
    rw [directoryContent] at read
    cases read

end Cache

end TagMenu
