import Mathlib
import TagMenu.Command.Complete
import TagMenu.Command.Log
import TagMenu.Proofs.Cache.Scratch

namespace TagMenu.Machine

open Disk (Volume)

variable {α β : Type} {act : Act α} {answer : Volume → α} {host : Host Act} {machine : Machine} {path : Path}
  {names : Unicode.NameTable}

/-- An act that takes notes at most, with its answer as a matter of the disk. -/
def Asks (act : Act α) (answer : Volume → α) : Prop :=
  ∀ machine, (act.run machine).1 = answer machine.volume ∧ (act.run machine).2.volume = machine.volume

theorem asks_return (value : α) : Asks (return value) fun _ => value := fun _ => ⟨rfl, rfl⟩

theorem Asks.bind {next : α → Act β} (first : Asks act answer) (later : α → Volume → β)
    (second : ∀ value, Asks (next value) (later value)) :
    Asks (act >>= next) fun volume => later (answer volume) volume := by
  intro machine
  obtain ⟨value, kept⟩ := first machine
  obtain ⟨result, keptToo⟩ := second (act.run machine).1 (act.run machine).2
  rw [Cache.run_bind]
  exact ⟨by rw [result, kept, value], keptToo.trans kept⟩

theorem Quiet.asks_note (quiet : Quiet host) (note : Note) : Asks (host.note note) fun _ => () :=
  fun machine => ⟨rfl, quiet.notes note machine⟩

theorem asks_forM {items : List β} {each : β → Act Unit} (notes : ∀ item, Asks (each item) fun _ => ()) :
    Asks (items.forM each) fun _ => () := by
  induction items with
  | nil => exact asks_return ()
  | cons item rest ih => exact (notes item).bind _ fun _ => ih

theorem Quiet.logging (quiet : Quiet host) (verbose : Bool) : Quiet (host.logging verbose) := by
  refine ⟨quiet.files, fun note machine => ?_⟩
  show ((if note.isLogged verbose then host.note note else return ()).run machine).2.volume = machine.volume
  split
  · exact quiet.notes note machine
  · rfl

section Answers

variable {volume : Volume} {value : α}

/-- On a machine with this disk, the act has an answer, and the disk stays as it is. -/
def Answers (volume : Volume) (act : Act α) (value : α) : Prop :=
  ∀ machine : Machine, machine.volume = volume →
    (act.run machine).1 = value ∧ (act.run machine).2.volume = volume

theorem Asks.answers (asks : Asks act answer) (volume : Volume) : Answers volume act (answer volume) := by
  rintro machine rfl
  exact asks machine

theorem answers_return (volume : Volume) (value : α) : Answers volume (return value) value := fun _ same => ⟨rfl, same⟩

theorem Answers.bind {next : α → Act β} {result : β} (first : Answers volume act value)
    (second : Answers volume (next value) result) : Answers volume (act >>= next) result := by
  intro machine same
  obtain ⟨known, kept⟩ := first machine same
  rw [Cache.run_bind, known]
  exact second _ kept

theorem answers_mapM {items : List β} {each : β → Act α} (answer : β → α)
    (answers : ∀ item ∈ items, Answers volume (each item) (answer item)) :
    Answers volume (items.mapM each) (items.map answer) := by
  induction items with
  | nil => exact answers_return volume []
  | cons item rest ih =>
    obtain ⟨first, later⟩ := List.forall_mem_cons.mp answers
    rw [List.mapM_cons]
    exact first.bind ((ih later).bind (answers_return volume _))

end Answers

def settingsFile? (config : Option Path) (volume : Volume) : Option Path :=
  config.or ((Settings.fileNames.map (⟨"."⟩ : Path).join).find? volume.isFile)

def settingsIn (volume : Volume) : Option Path → Except Settings.Error Settings
  | none => .ok {}
  | some path =>
    match volume.read path with
    | .error failure => .error (.unreadable failure)
    | .ok content => Settings.ofContent path content

theorem Quiet.asks_ofFile (quiet : Quiet host) (path : Path) :
    Asks (Settings.ofFile host path) fun volume => settingsIn volume (some path) := by
  intro machine
  have reading : (host.read path).run machine = (machine.volume.read path, machine) :=
    quiet.run_ask (·.read path) machine
  rw [Settings.ofFile, Cache.run_bind, reading]
  simp only [settingsIn]
  cases machine.volume.read path <;> exact ⟨rfl, rfl⟩

theorem Quiet.asks_firstFile? (quiet : Quiet host) (paths : List Path) :
    Asks (Settings.firstFile? host paths) fun volume => paths.find? volume.isFile := by
  induction paths with
  | nil => exact asks_return none
  | cons path rest ih =>
    intro machine
    have asking : (host.isFile path).run machine = (machine.volume.isFile path, machine) :=
      quiet.run_ask (·.isFile path) machine
    rw [Settings.firstFile?, Cache.run_bind, asking]
    cases here : machine.volume.isFile path with
    | true =>
      have first : (path :: rest).find? machine.volume.isFile = some path := List.find?_cons_of_pos here
      exact ⟨first.symm, rfl⟩
    | false =>
      have later : (path :: rest).find? machine.volume.isFile = rest.find? machine.volume.isFile :=
        List.find?_cons_of_neg (by simp [here])
      obtain ⟨answer, kept⟩ := ih machine
      exact ⟨answer.trans later.symm, kept⟩

theorem Quiet.asks_loadSettings (quiet : Quiet host) (config : Option Path) :
    Asks (Command.loadSettings host config) fun volume => settingsIn volume (settingsFile? config volume) := by
  cases config with
  | some path => exact quiet.asks_ofFile path
  | none =>
    refine (quiet.asks_firstFile? _).bind (fun found volume => settingsIn volume found) fun found => ?_
    cases found with
    | some path => exact (quiet.asks_note _).bind _ fun _ => quiet.asks_ofFile path
    | none => exact (quiet.asks_note _).bind _ fun _ => asks_return _

theorem base_of_settingsIn {volume : Volume} {file : Option Path} {settings : Settings}
    (loaded : settingsIn volume file = .ok settings) : settings.base = file.bind Path.parent? := by
  cases file with
  | none =>
    cases loaded
    rfl
  | some path =>
    simp only [settingsIn] at loaded
    split at loaded
    · cases loaded
    · unfold Settings.ofContent at loaded
      split at loaded
      · cases loaded
      · obtain ⟨others, -, same⟩ := Pattern.ok_of_bind loaded
        cases same
        rfl

theorem Quiet.fixed (quiet : Quiet host) : (host.supply names).Fixed machine :=
  Cache.fixed_supply quiet.still quiet.oneFile

end TagMenu.Machine
