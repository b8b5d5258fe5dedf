import Mathlib
import TagMenu.Proofs.Disk.FileName
import TagMenu.Proofs.Disk.Spelling

namespace TagMenu.Disk

variable {root node child : Node} {here place names : Place} {name : String} {entryName : FileName}
  {way : List FileName} {new : Option Node} {entries : List (FileName × Node)} {modified time : Timestamp}
  {follow : Bool} {links : Nat} {steps : List Step}

namespace Node

theorem below?_append (node : Node) (way rest : List FileName) :
    node.below? (way ++ rest) = (node.below? way).bind (·.below? rest) := by
  induction way generalizing node with
  | nil => simp [below?]
  | cons name more ih =>
    cases node with
    | file | link => simp [below?]
    | directory entries modified => simp [below?, ih, Option.bind_assoc]

theorem below?_singleton (listed : entries.lookup entryName = some child) (modified : Timestamp) :
    (Node.directory entries modified).below? [entryName] = some child := by
  simp [below?, listed]

theorem get?_append (node : Node) (here place : Place) :
    node.get? (here ++ place) = (node.get? here).bind (·.get? place) := by
  rw [get?, List.map_append, below?_append]
  rfl

theorem get?_of_directory (there : root.get? here = some (.directory entries modified)) (name : String) (rest : Place) :
    root.get? (here ++ name :: rest) = (entries.lookup (.ofText name)).bind (·.get? rest) := by
  rw [get?_append, there]
  rfl

theorem directory_of_below? (found : node.below? (entryName :: way) = some child) :
    ∃ entries modified, node = .directory entries modified := by
  cases node with
  | file | link => simp [below?] at found
  | directory entries modified => exact ⟨entries, modified, rfl⟩

theorem directory_of_get? (found : node.get? (name :: place) = some child) :
    ∃ entries modified, node = .directory entries modified :=
  directory_of_below? found

theorem lookup_setEntry (name : FileName) (new : Node) (entries : List (FileName × Node)) (other : FileName) :
    (setEntry name (some new) entries).lookup other = if other = name then some new else entries.lookup other := by
  induction entries with
  | nil => exact lookup_cons name new [] other
  | cons entry rest ih =>
    obtain ⟨first, kept⟩ := entry
    by_cases here : first = name
    · subst here
      rw [setEntry, if_pos rfl]
      by_cases same : other = first <;> simp [lookup_cons, same]
    · rw [setEntry, if_neg here, lookup_cons, lookup_cons, ih]
      by_cases same : other = first
      · simp [same, here]
      · simp [same]

theorem keys_setEntry (name : FileName) (new : Node) (entries : List (FileName × Node)) :
    (setEntry name (some new) entries).map (·.1) =
      if name ∈ entries.map (·.1) then entries.map (·.1) else entries.map (·.1) ++ [name] := by
  induction entries with
  | nil => rfl
  | cons entry rest ih =>
    obtain ⟨first, kept⟩ := entry
    by_cases here : first = name
    · simp [setEntry, here]
    · have other : name ≠ first := Ne.symm here
      rw [setEntry, if_neg here, List.map_cons, ih]
      split <;> simp_all

theorem get?_put (there : root.get? here = some (.directory entries modified)) (time : Timestamp) (new : Node)
    (name : String) :
    (root.put time (some new) (here ++ [name])).get? here =
      some (.directory (setEntry (.ofText name) (some new) entries)
        (if (entries.lookup (.ofText name)).isSome then modified else time)) := by
  induction here generalizing root with
  | nil =>
    cases there
    simp [put, get?, below?]
  | cons first rest ih =>
    obtain ⟨outer, changed, rfl⟩ := directory_of_get? there
    obtain ⟨next, found, below⟩ := Option.bind_eq_some_iff.mp there
    obtain ⟨second, more, split⟩ : ∃ second more, rest ++ [name] = second :: more :=
      List.exists_cons_of_ne_nil (by simp)
    rw [List.cons_append, split, put, ← split]
    simp only [found, get?, below?, List.map_cons, lookup_setEntry, if_true, Option.bind_some]
    exact ih below

/-- A tree in which there is nothing but what leads to a place, and a node there. -/
def along (place : Place) (node : Node) : Node :=
  place.foldr (fun name below => .directory [(.ofText name, below)] ⟨0, 0⟩) node

theorem get?_along (place rest : Place) (node : Node) :
    (along (place ++ rest) node).get? place = some (along rest node) := by
  induction place with
  | nil => rfl
  | cons name more ih =>
    have first : (along (name :: more ++ rest) node).get? (name :: more) = (along (more ++ rest) node).get? more := by
      simp [along]
    exact first.trans ih

end Node

theorem walk_through (short : ∀ name ∈ names, name.utf8ByteSize ≤ nameLimit)
    (there : root.get? (here ++ names) = some (.directory entries modified)) :
    walk root follow links here (names.map .enter ++ steps) = walk root follow links (here ++ names) steps := by
  induction names generalizing here with
  | nil => simp
  | cons name rest ih =>
    obtain ⟨first, short⟩ := List.forall_mem_cons.mp short
    have onward : here ++ name :: rest = here ++ [name] ++ rest := by simp
    rw [onward] at there ⊢
    have below := there
    rw [Node.get?_append] at below
    obtain ⟨child, found, below⟩ := Option.bind_eq_some_iff.mp below
    obtain ⟨inside, changed, rfl⟩ : ∃ entries modified, child = .directory entries modified := by
      cases rest with
      | nil => exact ⟨_, _, Option.some.inj below⟩
      | cons next more => exact Node.directory_of_get? below
    rw [List.map_cons, List.cons_append, walk, if_neg (Nat.not_lt.mpr first)]
    simp only [found]
    exact ih short there

theorem walk_names (short : ∀ name ∈ names, name.utf8ByteSize ≤ nameLimit)
    (there : root.get? (here ++ names) = some node) (own : ∀ target, node ≠ .link target) :
    walk root follow links here (names.map .enter) = .ok (.found (here ++ names) node) := by
  induction names using List.reverseRecOn with
  | nil =>
    rw [List.append_nil] at there
    simp [walk, there]
  | append_singleton before name _ =>
    rw [List.forall_mem_append, List.forall_mem_singleton] at short
    rw [← List.append_assoc] at there ⊢
    have above := there
    rw [Node.get?_append] at above
    obtain ⟨parent, found, below⟩ := Option.bind_eq_some_iff.mp above
    obtain ⟨entries, modified, rfl⟩ := Node.directory_of_get? below
    -- All names before the last one are of directories, so only the last one may be a link.
    rw [List.map_append, walk_through short.1 found, List.map_cons, List.map_nil, walk,
      if_neg (Nat.not_lt.mpr short.2)]
    cases node with
    | link target => exact absurd rfl (own target)
    | file content modified => simp only [there, List.isEmpty_nil, if_true]
    | directory entries modified => simp only [there, walk]

theorem find_of_long {path : Path} (long : pathLimit < path.text.utf8ByteSize) :
    ∃ failure, find root here follow path = .error failure := by
  unfold find resolve
  split_ifs
  · exact ⟨_, rfl⟩
  · exact ⟨_, rfl⟩
  · exact ⟨_, rfl⟩

end TagMenu.Disk
