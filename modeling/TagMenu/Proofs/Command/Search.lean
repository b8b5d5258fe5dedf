import Mathlib
import TagMenu.Command.Init
import TagMenu.Proofs.Command.Asking
import TagMenu.Proofs.Disk.Joined

namespace TagMenu

open Disk (Node Place Timestamp Volume)

variable {node child : Node} {entries : List (FileName × Node)} {modified : Timestamp} {name : FileName}
  {names way done : List FileName} {depth : Nat} {text : String}

def Disk.Node.Distinct (node : Node) : Prop :=
  ∀ way entries modified, node.below? way = some (.directory entries modified) → (entries.map (·.1)).Nodup

/-- In each directory, files have names that they can have, which are texts, and no two of them have the same. -/
structure Disk.Node.Formed (node : Node) : Prop where
  distinct : node.Distinct
  named : ∀ way entries modified, node.below? way = some (.directory entries modified) →
    ∀ entry ∈ entries, ∃ text, entry.1 = .ofText text ∧ IsFileName text

namespace Disk.Node

theorem Distinct.below (distinct : node.Distinct) (found : node.below? way = some child) : child.Distinct := by
  intro rest entries modified inside
  refine distinct (way ++ rest) entries modified ?_
  rw [below?_append, found]
  exact inside

theorem Formed.below (formed : node.Formed) (found : node.below? way = some child) : child.Formed where
  distinct := formed.distinct.below found
  named := by
    intro rest entries modified inside
    refine formed.named (way ++ rest) entries modified ?_
    rw [below?_append, found]
    exact inside

theorem Formed.place_of_below? (formed : node.Formed) (found : node.below? way = some child) :
    ∃ place : Place, way = place.map .ofText ∧ ∀ text ∈ place, IsFileName text := by
  induction way generalizing node with
  | nil => exact ⟨[], rfl, List.forall_mem_nil _⟩
  | cons name rest ih =>
    obtain ⟨entries, modified, rfl⟩ := directory_of_below? found
    obtain ⟨next, listed, below⟩ := Option.bind_eq_some_iff.mp found
    obtain ⟨text, rfl, own⟩ := formed.named [] entries modified rfl _ (mem_of_lookup listed)
    obtain ⟨place, rfl, proper⟩ := ih (formed.below (below?_singleton listed modified)) below
    exact ⟨text :: place, rfl, List.forall_mem_cons.mpr ⟨own, proper⟩⟩

theorem distinct_file (content : ByteArray) (modified : Timestamp) : (file content modified).Distinct := by
  intro way _ _ found
  cases way <;> cases found

theorem formed_file (content : ByteArray) (modified : Timestamp) : (file content modified).Formed where
  distinct := distinct_file content modified
  named := by
    intro way _ _ found
    cases way <;> cases found

theorem distinct_directory (distinct : (entries.map (·.1)).Nodup) (each : ∀ entry ∈ entries, entry.2.Distinct)
    (modified : Timestamp) : (directory entries modified).Distinct := by
  intro way inner time found
  cases way with
  | nil =>
    cases found
    exact distinct
  | cons name rest =>
    obtain ⟨child, listed, below⟩ := Option.bind_eq_some_iff.mp found
    exact each _ (mem_of_lookup listed) rest inner time below

theorem formed_directory (distinct : (entries.map (·.1)).Nodup)
    (each : ∀ entry ∈ entries, (∃ text, entry.1 = .ofText text ∧ IsFileName text) ∧ entry.2.Formed)
    (modified : Timestamp) : (directory entries modified).Formed where
  distinct := distinct_directory distinct (fun entry inside => (each entry inside).2.distinct) modified
  named := by
    intro way inner time found
    cases way with
    | nil =>
      cases found
      exact fun entry inside => (each entry inside).1
    | cons name rest =>
      obtain ⟨child, listed, below⟩ := Option.bind_eq_some_iff.mp found
      exact (each _ (mem_of_lookup listed)).2.named rest inner time below

theorem formed_along {place : Place} (proper : ∀ text ∈ place, IsFileName text) (content : ByteArray)
    (modified : Timestamp) : (along place (.file content modified)).Formed := by
  induction place with
  | nil => exact formed_file content modified
  | cons text rest ih =>
    obtain ⟨own, proper⟩ := List.forall_mem_cons.mp proper
    exact formed_directory (by simp) (List.forall_mem_singleton.mpr ⟨⟨text, rfl, own⟩, ih proper⟩) _

end Disk.Node

namespace Command

open Machine (Act Quiet Answers answers_return answers_mapM)

variable {host : Host Act} {volume : Volume} {path : Path} {place : Place}

def IsDotted (name : FileName) : Prop := name.octets.head? = some FileName.fullStop

/-- A name that starts with a full stop, but is no text, is not hidden. -/
theorem isHidden_iff : isHidden name = true ↔ IsDotted name ∧ ∃ text, name = .ofText text := by
  have starts (text : String) : text.startsWith "." = true ↔ IsDotted (.ofText text) := by
    rw [String.startsWith_string_iff, IsDotted, FileName.head?_ofText]
    exact List.singleton_prefix_iff_head?_eq_some
  rw [isHidden, Option.any_eq_true]
  constructor
  · rintro ⟨text, read, dotted⟩
    obtain rfl := FileName.text?_eq_some.mp read
    exact ⟨(starts text).mp dotted, text, rfl⟩
  · rintro ⟨dotted, text, rfl⟩
    exact ⟨text, FileName.text?_ofText text, (starts text).mpr dotted⟩

theorem isHidden_ofText : isHidden (.ofText text) = true ↔ text.toList.head? = some '.' := by
  rw [isHidden_iff, IsDotted, FileName.head?_ofText]
  exact and_iff_left ⟨text, rfl⟩

theorem isHidden_repeatedName (n : Nat) : isHidden (.ofText (repeatedName n)) = false := by
  rw [Bool.eq_false_iff, ne_eq, isHidden_ofText]
  cases n <;> simp [repeatedName, List.replicate_succ]

def IsTagName (name : FileName) : Prop :=
  name = .ofText "tags" ∨ ∃ stem, stem ≠ [] ∧ name.octets = stem ++ (FileName.ofText ".tags").octets

theorem isTagFile_iff : isTagFile name = true ↔ IsTagName name := by
  have behind : (FileName.ofText ".tags").octets = FileName.fullStop :: (FileName.ofText "tags").octets := by
    simp [FileName.octets_ofText]
    decide
  have free : FileName.fullStop ∉ (FileName.ofText "tags").octets := by
    simp [FileName.octets_ofText]
    decide
  rw [isTagFile, Bool.or_eq_true, beq_iff_eq, beq_iff_eq, FileName.extension?_eq_some, and_iff_right free, IsTagName,
    behind]

/-- A file that a search through so many levels finds: neither hidden itself nor in anything that is, and with the name
    of a tag file. -/
structure TagFileAt (depth : Nat) (node : Node) (names : List FileName) : Prop where
  near : names.length ≤ depth
  shown : ∀ name ∈ names, isHidden name = false
  file : ∃ content modified, node.below? names = some (.file content modified)
  named : ∃ name ∈ names.getLast?, IsTagName name

def entryWays (below : Node → List (List FileName)) (name : FileName) (node : Node) : List (List FileName) :=
  if isHidden name then []
  else
    match node with
    | .file _ _ => if isTagFile name then [[name]] else []
    | .directory _ _ => (below node).map (name :: ·)
    | .link _ => []

def tagWays : Nat → Node → List (List FileName)
  | 0, _ => []
  | depth + 1, .directory entries _ => entries.flatMap fun (name, node) => entryWays (tagWays depth) name node
  | _ + 1, _ => []

theorem TagFileAt.filled (file : TagFileAt depth node names) : names ≠ [] := by
  rintro rfl
  obtain ⟨name, last, -⟩ := file.named
  cases last

theorem mem_entryWays {below : Node → List (List FileName)} :
    names ∈ entryWays below name child ↔ isHidden name = false ∧
      (((∃ content modified, child = .file content modified) ∧ IsTagName name ∧ names = [name]) ∨
        (child.isDirectory = true ∧ ∃ rest ∈ below child, names = name :: rest)) := by
  unfold entryWays
  rw [← isTagFile_iff]
  by_cases hidden : isHidden name
  · simp [hidden]
  · cases child with
    | file => simp [hidden, Node.isDirectory]
    | directory =>
      rw [if_neg hidden, List.mem_map]
      simp only [hidden, Node.isDirectory, reduceCtorEq, exists_false, false_and, false_or, true_and]
      exact exists_congr fun rest => and_congr_right fun _ => eq_comm
    | link => simp [hidden, Node.isDirectory]

theorem head?_of_entryWays {below : Node → List (List FileName)} (inside : names ∈ entryWays below name child) :
    names.head? = some name := by
  obtain ⟨-, ⟨-, -, rfl⟩ | ⟨-, rest, -, rfl⟩⟩ := mem_entryWays.mp inside <;> rfl

theorem tagFileAt_cons : TagFileAt (depth + 1) (.directory entries modified) (name :: names) ↔
    ∃ child, entries.lookup name = some child ∧ isHidden name = false ∧
      (((∃ content time, child = .file content time) ∧ IsTagName name ∧ names = []) ∨
        (child.isDirectory = true ∧ TagFileAt depth child names)) := by
  constructor
  · rintro ⟨near, shown, ⟨content, time, found⟩, last, ends, named⟩
    obtain ⟨own, seen⟩ := List.forall_mem_cons.mp shown
    obtain ⟨child, listed, inside⟩ := Option.bind_eq_some_iff.mp found
    refine ⟨child, listed, own, ?_⟩
    cases names with
    | nil =>
      obtain rfl : name = last := by simpa using ends
      exact .inl ⟨⟨content, time, Option.some.inj inside⟩, named, rfl⟩
    | cons next rest =>
      obtain ⟨inner, changed, rfl⟩ := Node.directory_of_below? inside
      rw [List.getLast?_cons_cons] at ends
      exact .inr ⟨rfl, Nat.succ_le_succ_iff.mp near, seen, ⟨content, time, inside⟩, last, ends, named⟩
  · rintro ⟨child, listed, own, ⟨⟨content, time, rfl⟩, tags, rfl⟩ | ⟨-, file⟩⟩
    · have there := Node.below?_singleton listed modified
      exact ⟨by simp, by simpa using own, ⟨content, time, there⟩, name, rfl, tags⟩
    · obtain ⟨next, rest, rfl⟩ := List.exists_cons_of_ne_nil file.filled
      obtain ⟨near, seen, ⟨content, time, inside⟩, named⟩ := file
      refine ⟨Nat.succ_le_succ near, List.forall_mem_cons.mpr ⟨own, seen⟩, ⟨content, time, ?_⟩, ?_⟩
      · rw [Node.below?, listed]
        exact inside
      · rwa [List.getLast?_cons_cons]

theorem mem_tagWays (distinct : node.Distinct) : names ∈ tagWays depth node ↔ TagFileAt depth node names := by
  induction depth generalizing node names with
  | zero =>
    refine ⟨nofun, fun file => ?_⟩
    exact absurd (List.eq_nil_of_length_eq_zero (Nat.le_zero.mp file.near)) file.filled
  | succ depth ih =>
    cases node with
    | file | link =>
      refine ⟨nofun, fun file => ?_⟩
      obtain ⟨name, rest, rfl⟩ := List.exists_cons_of_ne_nil file.filled
      obtain ⟨_, _, found⟩ := file.file
      cases found
    | directory entries modified =>
      have deeper {name child} (listed : entries.lookup name = some child) (rest : List FileName) :
          rest ∈ tagWays depth child ↔ TagFileAt depth child rest :=
        ih (distinct.below (Node.below?_singleton listed modified))
      rw [tagWays, List.mem_flatMap]
      constructor
      · rintro ⟨⟨name, child⟩, inside, way⟩
        have listed := lookup_of_mem (distinct [] entries modified rfl) inside
        obtain ⟨shown, ⟨file, tags, rfl⟩ | ⟨inner, rest, below, rfl⟩⟩ := mem_entryWays.mp way
        · exact tagFileAt_cons.mpr ⟨child, listed, shown, .inl ⟨file, tags, rfl⟩⟩
        · exact tagFileAt_cons.mpr ⟨child, listed, shown, .inr ⟨inner, (deeper listed rest).mp below⟩⟩
      · intro found
        obtain ⟨name, rest, rfl⟩ := List.exists_cons_of_ne_nil found.filled
        obtain ⟨child, listed, shown, ⟨file, tags, rfl⟩ | ⟨inner, below⟩⟩ := tagFileAt_cons.mp found
        · exact ⟨(name, child), mem_of_lookup listed, mem_entryWays.mpr ⟨shown, .inl ⟨file, tags, rfl⟩⟩⟩
        · refine ⟨(name, child), mem_of_lookup listed, mem_entryWays.mpr ⟨shown, .inr ?_⟩⟩
          exact ⟨inner, rest, (deeper listed rest).mpr below, rfl⟩

theorem nodup_tagWays (distinct : node.Distinct) : (tagWays depth node).Nodup := by
  induction depth generalizing node with
  | zero => simp [tagWays]
  | succ depth ih =>
    cases node with
    | file | link => simp [tagWays]
    | directory entries modified =>
      have own := distinct [] entries modified rfl
      rw [tagWays, List.nodup_flatMap]
      constructor
      · rintro ⟨name, child⟩ listed
        have there : (Node.directory entries modified).below? [name] = some child :=
          Node.below?_singleton (lookup_of_mem own listed) modified
        have inner := (ih (distinct.below there)).map (List.cons_injective (a := name))
        show (entryWays _ name child).Nodup
        unfold entryWays
        by_cases hidden : isHidden name
        · simp [hidden]
        · cases child with
          | file => by_cases tags : isTagFile name <;> simp [hidden, tags]
          | directory => simpa [hidden] using inner
          | link => simp [hidden]
      · -- Ways into different entries begin with different names.
        rw [List.nodup_iff_pairwise_ne, List.pairwise_map] at own
        refine own.imp fun {first second} apart names left right => ?_
        exact apart (Option.some.inj ((head?_of_entryWays left).symm.trans (head?_of_entryWays right)))

/-- The system takes the path to the directory that a file is in. -/
def InReach (path : Path) (names : List FileName) : Prop := Volume.sizeBelow path names.dropLast ≤ Disk.pathLimit

instance (path : Path) : DecidablePred (InReach path) := fun _ => Nat.decLe ..

theorem answers_entries (quiet : Quiet host) (volume : Volume) (path : Path) (names : List FileName) :
    Answers volume (host.entries path names)
      ((volume.entries path names).map fun (name, node) => (name, EntryKind.ofNode node)) := by
  rintro machine rfl
  have asking : (host.entries path names).run machine =
      ((machine.volume.entries path names).map fun (name, node) => (name, EntryKind.ofNode node), machine) :=
    quiet.run_ask (·.entries path names) machine
  rw [asking]
  exact ⟨rfl, rfl⟩

def reached (path : Path) (done : List FileName) (ways : List (List FileName)) : List (List FileName) :=
  (ways.map (done ++ ·)).filter (InReach path ·)

theorem answers_entry {below : Node → List (List FileName)} {search : Act (List (List FileName))}
    (readable : Volume.sizeBelow path done ≤ Disk.pathLimit)
    (deeper : child.isDirectory = true → Answers volume search (reached path (done ++ [name]) (below child))) :
    Answers volume
      (if isHidden name then return []
      else
        match EntryKind.ofNode child with
        | .file => return if isTagFile name then [done ++ [name]] else []
        | .directory => search
        | .other => return [])
      (reached path done (entryWays below name child)) := by
  unfold entryWays
  by_cases hidden : isHidden name
  · rw [if_pos hidden, if_pos hidden]
    exact answers_return volume []
  · rw [if_neg hidden, if_neg hidden]
    cases child with
    | link target => exact answers_return volume []
    | file content time =>
      have kept : InReach path (done ++ [name]) := by simpa [InReach] using readable
      have found : reached path done (if isTagFile name then [[name]] else []) =
          if isTagFile name then [done ++ [name]] else [] := by
        split <;> simp [reached, kept]
      rw [found]
      exact answers_return volume _
    | directory inner changed =>
      have onward : reached path done ((below (.directory inner changed)).map (name :: ·)) =
          reached path (done ++ [name]) (below (.directory inner changed)) := by
        simp [reached, Function.comp_def]
      rw [onward]
      exact deeper rfl

theorem answers_tagFilesBelow (quiet : Quiet host) {root : Node} (found : volume.find true path = .ok (place, root))
    (distinct : root.Distinct) (below : root.below? done = some node) :
    Answers volume (tagFilesBelow host path depth done) (reached path done (tagWays depth node)) := by
  induction depth generalizing node done with
  | zero => exact answers_return volume []
  | succ depth ih =>
    have listing := answers_entries quiet volume path done
    simp only [Volume.entries, found, below] at listing
    rw [tagFilesBelow]
    refine listing.bind ?_
    split
    case isTrue long =>
      -- The directory is out of reach, and so is all that is below it.
      have none : reached path done (tagWays (depth + 1) node) = [] := by
        rw [reached, List.filter_eq_nil_iff]
        rintro _ inside
        obtain ⟨way, member, rfl⟩ := List.mem_map.mp inside
        have filled := ((mem_tagWays (distinct.below below)).mp member).filled
        have longer := Volume.sizeBelow_append_le path done way.dropLast
        rw [decide_eq_true_eq, InReach, List.dropLast_append_of_ne_nil filled]
        omega
      rw [none]
      exact answers_return volume []
    case isFalse readable =>
      cases node with
      | file | link => exact answers_return volume []
      | directory entries modified =>
        have flat : reached path done (tagWays (depth + 1) (.directory entries modified)) =
            (entries.map fun (name, node) => reached path done (entryWays (tagWays depth) name node)).flatten := by
          rw [tagWays, reached, List.map_flatMap, List.filter_flatMap, List.flatMap_def]
          rfl
        rw [flat, List.mapM_map]
        refine (answers_mapM _ ?_).bind (answers_return volume _)
        rintro ⟨name, child⟩ listed
        refine answers_entry (Nat.not_lt.mp readable) fun _ => ih ?_
        rw [Node.below?_append, below]
        exact Node.below?_singleton (lookup_of_mem (distinct.below below [] entries modified rfl) listed) modified

def foundWays (path : Path) (node : Node) : List (List FileName) :=
  FileName.sort ((tagWays searchDepth node).filter (InReach path ·))

theorem pairwise_foundWays (distinct : node.Distinct) (path : Path) :
    (foundWays path node).Pairwise fun first second => FileName.key first < FileName.key second :=
  FileName.pairwise_sort ((nodup_tagWays distinct).filter _)

theorem mem_foundWays (distinct : node.Distinct) :
    names ∈ foundWays path node ↔ TagFileAt searchDepth node names ∧ InReach path names := by
  rw [foundWays, FileName.sort, List.mem_mergeSort, List.mem_filter, mem_tagWays distinct, decide_eq_true_eq]

theorem answers_findTagFiles (quiet : Quiet host) (found : volume.find true path = .ok (place, node))
    (distinct : node.Distinct) : Answers volume (findTagFiles host path) (foundWays path node) := by
  intro machine same
  obtain ⟨answer, kept⟩ := answers_tagFilesBelow quiet found distinct (rfl : node.below? [] = some node) machine same
  simp only [reached, List.nil_append, List.map_id'] at answer
  rw [findTagFiles, foundWays, ← answer]
  exact ⟨rfl, kept⟩

theorem find_here (there : volume.root.get? volume.here = some (.directory entries modified)) :
    volume.find true ⟨"."⟩ = .ok (volume.here, .directory entries modified) := by
  have start : volume.root.get? (volume.here ++ []) = some (.directory entries modified) := by rwa [List.append_nil]
  have found := Path.find_dotNames (List.forall_mem_nil _) start (by simp) (by decide)
  rwa [List.append_nil] at found

/-- A tag file that is so many steps below a directory at most, and below that in no directory with a name that starts
    with a full stop. -/
structure TagFileNear (depth : Nat) (node : Node) (names : List FileName) : Prop where
  near : names.length ≤ depth
  entered : ∀ name ∈ names.dropLast, ¬ IsDotted name
  file : ∃ content modified, node.below? names = some (.file content modified)
  named : ∃ name ∈ names.getLast?, IsTagName name

/-- Where directories with names that start with a full stop have texts for names, it is hidden files that the search
    leaves out. -/
theorem tagFileAt_iff (texts : ∀ name ∈ names.dropLast, IsDotted name → ∃ text, name = .ofText text) :
    TagFileAt depth node names ↔ TagFileNear depth node names ∧ ∀ name ∈ names.getLast?, isHidden name = false := by
  have shows : ∀ name ∈ names.dropLast, isHidden name = false ↔ ¬ IsDotted name := fun name inside => by
    rw [Bool.eq_false_iff, ne_eq, isHidden_iff, and_iff_left_of_imp (texts name inside)]
  constructor
  · intro found
    refine ⟨⟨found.near, fun name inside => ?_, found.file, found.named⟩, fun name last => ?_⟩
    · exact (shows name inside).mp (found.shown name (List.mem_of_mem_dropLast inside))
    · exact found.shown name (List.mem_of_getLast? last)
  · rintro ⟨⟨near, entered, file, named⟩, own⟩
    refine ⟨near, fun name inside => ?_, file, named⟩
    obtain ⟨last, ends, -⟩ := named
    -- All names but the last one are of directories.
    have split := List.dropLast_append_getLast? last ends
    rw [← split, List.mem_append, List.mem_singleton] at inside
    rcases inside with before | rfl
    · exact (shows name before).mpr (entered name before)
    · exact own name ends

/-- The search finds tag files that are near and in reach, each once and in order. Those that are hidden themselves are
    left out, and so are those in hidden directories, but those in directories with names that are no texts are not. -/
theorem search_leaves_out_hidden (quiet : Quiet host)
    (found : volume.find true path = .ok (place, .directory entries modified))
    (distinct : (Node.directory entries modified).Distinct) :
    ∃ files, Answers volume (findTagFiles host path) files ∧
      files.Pairwise (fun first second => FileName.key first < FileName.key second) ∧
      (∀ names, names ∈ files ↔ TagFileAt searchDepth (.directory entries modified) names ∧ InReach path names) ∧
      ∀ names, InReach path names → (∀ name ∈ names.dropLast, IsDotted name → ∃ text, name = .ofText text) →
        (names ∈ files ↔ TagFileNear searchDepth (.directory entries modified) names ∧
          ∀ name ∈ names.getLast?, isHidden name = false) := by
  refine ⟨_, answers_findTagFiles quiet found distinct, pairwise_foundWays distinct path,
    fun _ => mem_foundWays distinct, fun names reach texts => ?_⟩
  rw [mem_foundWays distinct, and_iff_left reach, tagFileAt_iff texts]

def strange : FileName := ⟨[FileName.fullStop, 0xFF]⟩

/-- A disk with a tag file that is hidden, one that is not, and one in a directory with a strange name. -/
def secretive : Volume where
  root := .directory [(".x.tags", .file .empty ⟨0, 0⟩), ("tags", .file .empty ⟨0, 0⟩),
    (strange, .directory [("tags", .file .empty ⟨0, 0⟩)] ⟨0, 0⟩)] ⟨0, 0⟩
  here := []
  now := ⟨0, 0⟩

theorem distinct_secretive : secretive.root.Distinct := by
  have leaf : (Node.file .empty ⟨0, 0⟩).Distinct := Node.distinct_file .empty ⟨0, 0⟩
  have inner : (Node.directory [("tags", .file .empty ⟨0, 0⟩)] ⟨0, 0⟩).Distinct :=
    Node.distinct_directory (by simp) (List.forall_mem_singleton.mpr leaf) _
  refine Node.distinct_directory (by decide +kernel) ?_ _
  simp only [List.forall_mem_cons]
  exact ⟨leaf, leaf, inner, List.forall_mem_nil _⟩

theorem search_leaves_out_hidden_beside_tags : ∃ files,
    Answers secretive (findTagFiles Machine.host ⟨"."⟩) files ∧ [.ofText "tags"] ∈ files := by
  have here : secretive.find true ⟨"."⟩ = .ok ([], secretive.root) := find_here rfl
  obtain ⟨files, answers, -, -, which⟩ := search_leaves_out_hidden Machine.quiet_host here distinct_secretive
  have near : TagFileNear searchDepth secretive.root [.ofText "tags"] :=
    ⟨by decide, by simp, ⟨.empty, ⟨0, 0⟩, rfl⟩, .ofText "tags", rfl, .inl rfl⟩
  exact ⟨files, answers, (which _ (by decide +kernel) (by simp)).mpr ⟨near, by decide +kernel⟩⟩

/-- The hidden file is in no hidden directory, and yet is not found. What is in the directory with the strange name is
    found. -/
theorem hidden_tag_file_is_missed : TagFileNear searchDepth secretive.root [.ofText ".x.tags"] ∧
    ¬ TagFileNear searchDepth secretive.root [strange, .ofText "tags"] ∧
    Answers secretive (findTagFiles Machine.host ⟨"."⟩) [[strange, .ofText "tags"], [.ofText "tags"]] := by
  have here : secretive.find true ⟨"."⟩ = .ok ([], secretive.root) := find_here rfl
  refine ⟨?_, fun near => near.entered strange (List.mem_cons_self ..) rfl, ?_⟩
  · exact ⟨by decide, by simp, ⟨.empty, ⟨0, 0⟩, by rfl⟩, .ofText ".x.tags", rfl,
      .inr ⟨[0x2E, 0x78], by simp, by decide +kernel⟩⟩
  · have answers := answers_findTagFiles Machine.quiet_host here distinct_secretive
    have ways : (tagWays searchDepth secretive.root).filter (InReach ⟨"."⟩ ·) =
        [[.ofText "tags"], [strange, .ofText "tags"]] := by decide +kernel
    have sorted : foundWays ⟨"."⟩ secretive.root = [[strange, .ofText "tags"], [.ofText "tags"]] := by
      rw [foundWays, ways]
      exact FileName.sort_eq (.swap ..) (by decide +kernel)
    rwa [sorted] at answers

end Command

end TagMenu
