import Mathlib
import TagMenu.Machine
import TagMenu.Proofs.Cache.Still
import TagMenu.Proofs.Disk.FileName
import TagMenu.Proofs.Disk.Spelling

namespace TagMenu

open Disk (Timestamp)

namespace Host

variable {σ : Type} (host : Host (StateM σ)) (names : Unicode.NameTable)

def time (world : σ) (path : Path) : Except Disk.Failure Timestamp := ((host.modified path).run world).1

def content (world : σ) (path : Path) : Except Disk.Failure ByteArray := ((host.read path).run world).1

def tags (world : σ) (path : Path) : Except TagFile.Error (List Candidate) :=
  match host.content world path with
  | .error failure => .error (.unreadable path failure)
  | .ok content => TagFile.readOctets names path content

def AllReadable (world : σ) (paths : List Path) : Prop :=
  ∀ path ∈ paths, ∀ modified, host.time world path = .ok modified → ∃ content, host.content world path = .ok content

def Still (world : σ) : Prop :=
  ∀ later, (host.supply names).Leads world later → host.time later = host.time world ∧
    host.content later = host.content world

/-- All spellings of a path that can be looked at lead to one file. -/
def OneFile (world : σ) : Prop :=
  ∀ left right earlier later, left.key = right.key → host.time world left = .ok earlier →
    host.time world right = .ok later → earlier = later ∧ host.content world left = host.content world right

/-- No file has two contents at one time of change. -/
def TimesTell (worlds : List σ) : Prop :=
  ∀ before ∈ worlds, ∀ after ∈ worlds, ∀ left right modified old new, left.key = right.key →
    host.time before left = .ok modified → host.time after right = .ok modified →
    host.content before left = .ok old → host.content after right = .ok new → old = new

def StayReadable (worlds : List σ) : Prop :=
  ∀ before ∈ worlds, ∀ after ∈ worlds, ∀ left right modified old, left.key = right.key →
    host.time before left = .ok modified → host.time after right = .ok modified →
    host.content before left = .ok old → ∃ new, host.content after right = .ok new

/-- The worlds of a run in which files only change between refreshes. -/
structure Settled (worlds : List σ) : Prop where
  still : ∀ world ∈ worlds, host.Still names world
  oneFile : ∀ world ∈ worlds, host.OneFile world
  timesTell : host.TimesTell worlds

end Host

namespace Machine

variable {names : Unicode.NameTable} {machine later : Machine} {path left right : Path} {other : Host Act}

/-- A host that has the files of a machine, and that leaves them as they are when it takes notes. -/
structure Quiet (other : Host Act) : Prop where
  files : other.toFiles = files
  notes : ∀ note machine, ((other.note note).run machine).2.volume = machine.volume

theorem quiet_host : Quiet host := ⟨rfl, fun _ _ => rfl⟩

theorem Quiet.run_ask {α : Type} (quiet : Quiet other) (ask : Files Act → Act α) (machine : Machine) :
    (ask other.toFiles).run machine = (ask Machine.files).run machine := by
  rw [quiet.files]

theorem Quiet.volume_loadTags (quiet : Quiet other) :
    ((other.loadTags names path).run machine).2.volume = machine.volume := by
  have reading : (other.read path).run machine = (machine.volume.read path, machine) :=
    quiet.run_ask (·.read path) machine
  rw [Host.loadTags, Cache.run_bind, reading]
  cases machine.volume.read path with
  | error failure => rfl
  | ok content =>
    cases parsed : TagFile.readOctets names path content with
    | error error =>
      simp only [parsed]
      rfl
    | ok candidates =>
      simp only [parsed]
      exact quiet.notes _ machine

theorem Quiet.volume_of_led (quiet : Quiet other) (led : (other.supply names).Leads machine later) :
    later.volume = machine.volume := by
  induction led with
  | nowhere => rfl
  | modified led run ih =>
    rw [Host.supply, quiet.files] at run
    cases run
    exact ih
  | load led run ih => exact (congrArg (·.2.volume) run).symm.trans (quiet.volume_loadTags.trans ih)
  | note led note ih => exact (quiet.notes note _).trans ih

theorem Quiet.still (quiet : Quiet other) : other.Still names machine := by
  intro later led
  have same := quiet.volume_of_led led
  constructor <;> funext path
  · rw [Host.time, Host.time, quiet.files]
    show later.volume.modified path = machine.volume.modified path
    rw [same]
  · rw [Host.content, Host.content, quiet.files]
    show later.volume.read path = machine.volume.read path
    rw [same]

theorem still : host.Still names machine := quiet_host.still

def timeOf : Disk.Node → Except Disk.Failure Timestamp
  | .file _ modified | .directory _ modified => .ok modified
  | .link _ => .error .notFound

def contentOf : Disk.Node → Except Disk.Failure ByteArray
  | .file content _ => .ok content
  | .directory _ _ => .error .isADirectory
  | .link _ => .error .notFound

theorem time_eq : host.time machine path = (machine.volume.find true path).bind fun found => timeOf found.2 := by
  show machine.volume.modified path = _
  rw [Disk.Volume.modified]
  rcases machine.volume.find true path with failure | ⟨place, node⟩
  · rfl
  · cases node <;> rfl

theorem content_eq :
    host.content machine path = (machine.volume.find true path).bind fun found => contentOf found.2 := by
  show machine.volume.read path = _
  rw [Disk.Volume.read]
  rcases machine.volume.find true path with failure | ⟨place, node⟩
  · rfl
  · cases node <;> rfl

theorem find_of_time {modified : Timestamp} (time : host.time machine path = .ok modified) :
    ∃ found, machine.volume.find true path = .ok found := by
  rw [time_eq] at time
  cases found : machine.volume.find true path with
  | error failure =>
    rw [found] at time
    cases time
  | ok place => exact ⟨place, rfl⟩

theorem oneFile : host.OneFile machine := by
  intro left right earlier later same before now
  obtain ⟨first, foundLeft⟩ := find_of_time before
  obtain ⟨second, foundRight⟩ := find_of_time now
  obtain rfl := Disk.find_spelling same foundLeft foundRight
  have times : host.time machine left = host.time machine right := by rw [time_eq, time_eq, foundLeft, foundRight]
  refine ⟨Except.ok.inj (before.symm.trans (times.trans now)), ?_⟩
  rw [content_eq, content_eq, foundLeft, foundRight]

theorem Quiet.oneFile (quiet : Quiet other) : other.OneFile machine := by
  have answers : other.time machine = host.time machine ∧ other.content machine = host.content machine := by
    constructor <;> funext path
    · exact congrArg Prod.fst (quiet.run_ask (·.modified path) machine)
    · exact congrArg Prod.fst (quiet.run_ask (·.read path) machine)
  rw [Host.OneFile, answers.1, answers.2]
  exact Machine.oneFile

theorem time_of_content {content : ByteArray} (read : host.content machine path = .ok content) :
    ∃ modified, host.time machine path = .ok modified := by
  rw [content_eq] at read
  rw [time_eq]
  rcases found : machine.volume.find true path with failure | ⟨place, node⟩
  · rw [found] at read
    cases read
  · rw [found] at read
    cases node with
    | link target => cases read
    | _ => exact ⟨_, rfl⟩

theorem settled {worlds : List Machine} (timesTell : host.TimesTell worlds) : host.Settled names worlds :=
  ⟨fun _ _ => still, fun _ _ => oneFile, timesTell⟩

open Disk (Node)

def holding (node : Node) : Machine :=
  { volume := { root := .directory [("t", node)] ⟨0, 0⟩, here := [], now := ⟨0, 0⟩ } }

theorem find_holding (node : Node) (noLink : ∀ target, node ≠ .link target) :
    (holding node).volume.find true ⟨"t"⟩ = .ok (["t"], node) := by
  have steps : Disk.itinerary [] "t" = ([], [.enter "t"]) := by decide
  have there : (Node.directory [("t", node)] ⟨0, 0⟩).get? ["t"] = some node := by
    simp
  have short : ¬ "t".utf8ByteSize > Disk.nameLimit := by decide
  refine Disk.find_of_walk (by simp) (by decide) (by decide) ?_
  rw [holding, steps]
  cases node with
  | link target => exact absurd rfl (noLink target)
  | file content modified => simp [Disk.walk, short, there]
  | directory entries modified => simp [Disk.walk, short, there]

theorem answers_holding (node : Node) (noLink : ∀ target, node ≠ .link target) :
    host.time (holding node) ⟨"t"⟩ = timeOf node ∧ host.content (holding node) ⟨"t"⟩ = contentOf node := by
  rw [time_eq, content_eq, find_holding node noLink]
  exact ⟨rfl, rfl⟩

theorem content_holding {node : Node} {content : ByteArray}
    (read : host.content (holding node) path = .ok content) :
    ∃ place modified, node.get? place = some (.file content modified) ∧
      host.time (holding node) path = .ok modified := by
  rw [content_eq] at read
  rw [time_eq]
  rcases found : (holding node).volume.find true path with failure | ⟨place, leads⟩
  · rw [found] at read
    cases read
  · rw [found] at read
    have there := Disk.find_get? found
    cases leads with
    | link target => cases read
    | directory entries modified => cases read
    | file bytes modified =>
      cases read
      cases place with
      | nil => cases there
      | cons name rest =>
        by_cases same : name = "t"
        · subst same
          exact ⟨rest, modified, by simpa [holding] using there, rfl⟩
        · simp [holding, same] at there

theorem content_holding_file {bytes content : ByteArray} {modified : Timestamp}
    (read : host.content (holding (.file bytes modified)) path = .ok content) :
    content = bytes ∧ host.time (holding (.file bytes modified)) path = .ok modified := by
  obtain ⟨place, time, there, answer⟩ := content_holding read
  cases place with
  | nil =>
    cases there
    exact ⟨rfl, answer⟩
  | cons name rest => cases there

theorem content_holding_directory {content : ByteArray} {modified : Timestamp} :
    host.content (holding (.directory [] modified)) path ≠ .ok content := by
  intro read
  obtain ⟨place, time, there, -⟩ := content_holding read
  cases place <;> cases there

end Machine

end TagMenu
