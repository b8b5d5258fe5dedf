import Mathlib
import TagMenu.Source.Discovery
import TagMenu.Proofs.Path.Absolute
import TagMenu.Proofs.Source.Stages

namespace TagMenu

namespace Host

variable {σ α : Type}

def silently (act : StateM σ α) : StateM (σ × List String) α := do
  let (world, told) ← get
  let (answer, next) := act.run world
  set (next, told)
  return answer

def telling (host : Host (StateM σ)) : Host (StateM (σ × List String)) where
  workingDirectory := silently host.workingDirectory
  modified path := silently (host.modified path)
  read path := silently (host.read path)
  write path content := silently (host.write path content)
  exists? path := silently (host.exists? path)
  isFile path := silently (host.isFile path)
  entries path names := silently (host.entries path names)
  run program arguments := silently (host.run program arguments)
  note note := do
    silently (host.note note)
    modify fun (world, told) => (world, told ++ Note.progressTexts [note])

end Host

def Outside.ofHost {σ : Type} (host : Host (StateM σ)) (names : Unicode.NameTable) (discovery : Discovery) :
    Outside σ where
  modified := host.modified
  load := host.loadTags names
  note := host.note
  discover file := do
    let ((paths, next, said)) := (discovery.find host.telling file).run (← get, [])
    set next
    return (paths, said)

variable {σ α β : Type} {host : Host (StateM σ)} {world : σ} {told : List String} {path : Path}

/-- What the user is told of a tagger: the lines of its diagnostics, or why it cannot be started. -/
def Tagger.texts (tagger : Tagger) : Except Disk.Failure Tagger.Answer → List String
  | .ok answer => answer.diagnostics.map ("Tagger: " ++ ·)
  | .error failure => ["Tagger: failed to run " ++ tagger.program ++ ": " ++ failure.message]

def Discovery.texts (host : Host (StateM σ)) (discovery : Discovery) (file : Option Path) (world : σ) : List String :=
  match discovery, file with
  | .configured { tagger := some tagger, .. }, some file => tagger.texts ((tagger.ask host file).run world).1
  | _, _ => []

/-- An act with a record does the same as without, and tells the user this. -/
def Telling (recorded : StateM (σ × List String) α) (act : StateM σ α) (texts : σ → List String) : Prop :=
  ∀ world told, recorded.run (world, told) = ((act.run world).1, (act.run world).2, told ++ texts world)

namespace Telling

theorem silently (act : StateM σ α) : Telling (Host.silently act) act fun _ => [] := by
  intro world told
  rw [List.append_nil]
  rfl

theorem pure (value : α) : Telling (return value) (return value : StateM σ α) fun _ => [] := by
  intro world told
  rw [List.append_nil]
  rfl

theorem note (host : Host (StateM σ)) (note : Note) :
    Telling (host.telling.note note) (host.note note) fun _ => Note.progressTexts [note] := fun _ _ => rfl

theorem bind {first : StateM σ α} {second : α → StateM σ β} {recorded : StateM (σ × List String) α}
    {recordedToo : α → StateM (σ × List String) β} {texts : σ → List String} (telling : Telling recorded first texts)
    (more : α → List String) (tellingToo : ∀ value, Telling (recordedToo value) (second value) fun _ => more value) :
    Telling (recorded >>= recordedToo) (first >>= second) fun world => texts world ++ more (first.run world).1 := by
  intro world told
  rw [Cache.run_bind, Cache.run_bind, telling, tellingToo, List.append_assoc]

theorem bind_quiet {first : StateM σ α} {second : α → StateM σ β} {recorded : StateM (σ × List String) α}
    {recordedToo : α → StateM (σ × List String) β} {texts : σ → List String} (telling : Telling recorded first texts)
    (quiet : ∀ value, Telling (recordedToo value) (second value) fun _ => []) :
    Telling (recorded >>= recordedToo) (first >>= second) texts := by
  simpa only [List.append_nil] using telling.bind (fun _ => []) quiet

theorem forM {items : List β} {each : β → StateM σ Unit} {recorded : β → StateM (σ × List String) Unit}
    {text : β → String} (telling : ∀ item, Telling (recorded item) (each item) fun _ => [text item]) :
    Telling (items.forM recorded) (items.forM each) fun _ => items.map text := by
  induction items with
  | nil => exact pure ()
  | cons item rest ih => exact (telling item).bind (fun _ => rest.map text) fun _ => ih

end Telling

theorem telling_ask (host : Host (StateM σ)) (tagger : Tagger) (path : Path) :
    Telling (tagger.ask host.telling path) (tagger.ask host path) fun _ => [] := by
  refine (Telling.note host _).bind_quiet fun _ => (Telling.silently _).bind_quiet fun answer => ?_
  cases answer <;> exact .pure _

theorem telling_tagFiles (host : Host (StateM σ)) (tagger : Tagger) (path : Path) :
    Telling (tagger.tagFiles host.telling path) (tagger.tagFiles host path)
      fun world => tagger.texts ((tagger.ask host path).run world).1 := by
  refine (telling_ask host tagger path).bind tagger.texts fun answer => ?_
  cases answer with
  | error failure =>
    exact (Telling.note host _).bind (fun _ => tagger.texts (.error failure)) fun _ =>
      (Telling.note host _).bind_quiet fun _ => .pure _
  | ok answer =>
    refine (Telling.forM fun line => .note host (.progress ("Tagger: " ++ line))).bind_quiet fun _ => ?_
    cases answer.success with
    | true => exact .pure _
    | false => exact (Telling.note host _).bind_quiet fun _ => .pure _

theorem telling_taggerFiles (host : Host (StateM σ)) (lookup : Lookup) (file : Option Path) :
    Telling (lookup.taggerFiles host.telling file) (lookup.taggerFiles host file)
      ((Discovery.configured lookup).texts host file) := by
  obtain ⟨tagFiles, included, tagger⟩ := lookup
  cases tagger with
  | none => cases file <;> exact .pure _
  | some tagger =>
    cases file with
    | none => exact (Telling.note host _).bind_quiet fun _ => .pure _
    | some file => exact telling_tagFiles host tagger file

theorem telling_find (host : Host (StateM σ)) (discovery : Discovery) (file : Option Path) :
    Telling (discovery.find host.telling file) (discovery.find host file) (discovery.texts host file) := by
  cases discovery with
  | fixed paths => exact .pure _
  | sibling => exact .pure _
  | configured lookup =>
    exact (telling_taggerFiles host lookup file).bind_quiet fun _ => (Telling.silently _).bind_quiet fun _ => .pure _

theorem discover_ofHost (host : Host (StateM σ)) (names : Unicode.NameTable) (discovery : Discovery)
    (file : Option Path) (world : σ) :
    ((Outside.ofHost host names discovery).discover file).run world =
      let found := (discovery.find host file).run world
      ((found.1, discovery.texts host file world), found.2) := by
  have recorded : ((Outside.ofHost host names discovery).discover file).run world =
      let found := (discovery.find host.telling file).run (world, [])
      ((found.1, found.2.2), found.2.1) := rfl
  rw [recorded, telling_find host discovery file world []]
  rfl

theorem isAbsolute_of_found (rooted : ∀ world, (host.workingDirectory.run world).1.isAbsolute = true) (lookup : Lookup)
    (file : Option Path) (world : σ) :
    ∀ path ∈ ((lookup.find host file).run world).1, path.isEmpty = true ∨ path.isAbsolute = true := by
  rw [Lookup.find, Cache.run_bind, Cache.run_bind]
  refine List.forall_mem_map.mpr fun path _ => ?_
  cases empty : path.isEmpty with
  | true => exact .inl (by simp [Path.absolute, Path.absolute?, empty])
  | false => exact .inr (Path.isAbsolute_absolute (rooted _) empty)

end TagMenu
