import Mathlib
import TagMenu.Proofs.Disk.Tree
import TagMenu.Proofs.Path.Absolute

namespace TagMenu

open Disk (Node Place Step nameLimit pathLimit)

/-- What a file may be called. -/
structure IsFileName (name : String) : Prop where
  filled : name ≠ ""
  whole : '/' ∉ name.toList
  noNul : '\x00' ∉ name.toList
  notHere : name ≠ "."
  notUp : name ≠ ".."
  short : name.utf8ByteSize ≤ nameLimit

def repeatedName (n : Nat) : String := String.ofList (List.replicate n 'a')

theorem utf8ByteSize_repeatedName (n : Nat) : (repeatedName n).utf8ByteSize = n := by
  unfold repeatedName
  induction n with
  | zero => rfl
  | succ n ih =>
    have letter : (String.singleton 'a').utf8ByteSize = 1 := rfl
    rw [List.replicate_succ, String.ofList_cons, String.utf8ByteSize_append, ih, letter, Nat.add_comm]

theorem isFileName_repeatedName {n : Nat} (filled : n ≠ 0) (short : n ≤ nameLimit) : IsFileName (repeatedName n) := by
  have only : ∀ c ∈ (repeatedName n).toList, c = 'a' := by simp [repeatedName]
  have other : ∀ name : String, (∃ c ∈ name.toList, c ≠ 'a') → repeatedName n ≠ name := by
    rintro _ ⟨c, inside, differs⟩ rfl
    exact differs (only c inside)
  constructor
  · intro none
    have size := utf8ByteSize_repeatedName n
    rw [none] at size
    exact filled size.symm
  · exact fun slash => absurd (only _ slash) (by decide)
  · exact fun nul => absurd (only _ nul) (by decide)
  · exact other "." ⟨'.', by decide, by decide⟩
  · exact other ".." ⟨'.', by decide, by decide⟩
  · rwa [utf8ByteSize_repeatedName]

namespace Path

variable {names here : List String} {name : String} {root node : Node}

def ofNames (names : List String) : Path := ⟨"/".intercalate names⟩

def rootedNames (names : List String) : Path := ⟨"/" ++ "/".intercalate names⟩

theorem toList_ofNames (names : List String) :
    (ofNames names).text.toList = ['/'].intercalate (names.map String.toList) := by
  rw [ofNames, String.toList_intercalate]
  rfl

theorem toList_rootedNames (names : List String) :
    (rootedNames names).text.toList = rooted false (names.map String.toList) := by
  rw [rootedNames, String.toList_append, String.toList_intercalate]
  rfl

theorem pieces_ofNames (filled : names ≠ []) (whole : ∀ name ∈ names, '/' ∉ name.toList) :
    Text.pieces '/' (ofNames names).text.toList = names.map String.toList := by
  rw [toList_ofNames, Text.pieces_eq_splitOn]
  exact List.splitOn_intercalate '/' (List.forall_mem_map.mpr whole) (by simpa using filled)

theorem isStep_of_name (proper : IsFileName name) : IsStep name.toList where
  filled none := proper.filled (String.toList_eq_nil_iff.mp none)
  moves here := proper.notHere (String.toList_injective (here.trans (by decide)))
  whole := proper.whole

theorem plain_of_proper (proper : ∀ name ∈ names, IsFileName name) : ∀ name ∈ names, name ≠ "" ∧ '/' ∉ name.toList :=
  fun name inside => ⟨(proper name inside).filled, (proper name inside).whole⟩

theorem component_of_name (proper : IsFileName name) : componentOfPiece? name.toList = some (.name name) := by
  have step := isStep_of_name proper
  have up : name.toList ≠ ['.', '.'] := fun up => proper.notUp (String.toList_injective (up.trans (by decide)))
  simp [componentOfPiece?, step.filled, step.moves, up]

theorem components_of_names (proper : ∀ name ∈ names, IsFileName name) :
    (names.map String.toList).filterMap componentOfPiece? = names.map Component.name := by
  induction names with
  | nil => rfl
  | cons name rest ih =>
    obtain ⟨first, proper⟩ := List.forall_mem_cons.mp proper
    rw [List.map_cons, List.filterMap_cons_some (component_of_name first), ih proper, List.map_cons]

theorem head?_ofNames (filled : names ≠ []) (proper : ∀ name ∈ names, name ≠ "" ∧ '/' ∉ name.toList) :
    (ofNames names).text.toList.head? ≠ some '/' := by
  obtain ⟨first, rest, rfl⟩ := List.exists_cons_of_ne_nil filled
  obtain ⟨some, whole⟩ := proper first (List.mem_cons_self ..)
  obtain ⟨c, more, text⟩ := List.exists_cons_of_ne_nil (mt String.toList_eq_nil_iff.mp some)
  have other : c ≠ '/' := by
    rintro rfl
    exact whole (by rw [text]; exact List.mem_cons_self ..)
  rw [toList_ofNames]
  cases rest <;> simp [List.intercalate_cons_cons, text, other]

theorem components_ofNames (filled : names ≠ []) (proper : ∀ name ∈ names, IsFileName name) :
    (ofNames names).components = names.map Component.name := by
  have pieces := pieces_ofNames filled fun name inside => (proper name inside).whole
  have relative := head?_ofNames filled (plain_of_proper proper)
  rw [components]
  unfold componentsOf
  split
  · simp_all
  · rw [pieces]
    split
    case h_1 rest start =>
      obtain ⟨first, more, rfl⟩ := List.exists_cons_of_ne_nil filled
      rw [List.map_cons, List.cons.injEq] at start
      exact absurd start.1 (isStep_of_name (proper first (List.mem_cons_self ..))).moves
    case h_2 => exact components_of_names proper

theorem isEmpty_ofNames (filled : names ≠ []) (proper : ∀ name ∈ names, name ≠ "" ∧ '/' ∉ name.toList) :
    (ofNames names).isEmpty = false := by
  obtain ⟨first, rest, rfl⟩ := List.exists_cons_of_ne_nil filled
  have some : first.toList ≠ [] := mt String.toList_eq_nil_iff.mp (proper first (List.mem_cons_self ..)).1
  rw [isEmpty, String.isEmpty_eq_false_iff]
  intro none
  have text := (toList_ofNames (first :: rest)).symm
  rw [none, String.toList_empty] at text
  cases rest <;> simp [List.intercalate_cons_cons, some] at text

theorem endsWith_ofNames (proper : ∀ name ∈ names, name ≠ "" ∧ '/' ∉ name.toList) :
    (ofNames names).text.endsWith "/" = false := by
  rw [Bool.eq_false_iff, ne_eq, endsWith_slash, toList_ofNames]
  obtain rfl | ⟨before, last, rfl⟩ := List.eq_nil_or_concat names
  · simp
  · rw [List.concat_eq_append] at proper ⊢
    obtain ⟨some, whole⟩ := proper last (by simp)
    rw [List.map_append, List.map_cons, List.map_nil, intercalate_concat]
    intro slash
    refine whole (List.mem_of_getLast? (Eq.trans ?_ slash))
    split
    · rfl
    · rw [List.append_cons, List.getLast?_append_of_ne_nil _ (mt String.toList_eq_nil_iff.mp some)]

theorem absolute_ofNames (filled : names ≠ []) (proper : ∀ name ∈ names, IsFileName name)
    (start : ∀ name ∈ here, IsFileName name) :
    (ofNames names).absolute (rootedNames here) = rootedNames (here ++ names) := by
  have plain := plain_of_proper proper
  have relative := head?_ofNames filled plain
  have components := components_ofNames filled proper
  have steps : ∀ component ∈ names.map Component.name, IsStep component.text.toList :=
    List.forall_mem_map.mpr fun name inside => isStep_of_name (proper name inside)
  have notCurrent : dropCurrent (names.map Component.name) = names.map Component.name := by
    cases names <;> rfl
  have notDouble : (ofNames names).hasDoubleRoot = false := by
    rw [Bool.eq_false_iff]
    exact fun double => relative (isAbsolute_iff.mp (isAbsolute_of_hasDoubleRoot double))
  have before : ∀ step ∈ here.map String.toList, IsStep step :=
    List.forall_mem_map.mpr fun name inside => isStep_of_name (start name inside)
  refine toList_injective ?_
  rw [absolute_eq (isEmpty_ofNames filled plain), endsWith_ofNames plain, if_neg (by decide), withoutSlash,
    notDouble, if_neg (by decide), if_neg (mt isAbsolute_iff.mp relative), components, notCurrent,
    toList_append (toList_rootedNames here) before steps, toList_rootedNames, List.map_append, List.map_map]
  rfl

def stepOfPiece (piece : List Char) : Step :=
  if piece = [] ∨ piece = ['.'] then .stay else if piece = ['.', '.'] then .up else .enter (String.ofList piece)

theorem stepsOf_eq (chars : List Char) : Disk.stepsOf chars = (Text.pieces '/' chars).map stepOfPiece := rfl

theorem steps_of_names (proper : ∀ name ∈ names, IsFileName name) :
    (names.map String.toList).map stepOfPiece = names.map Step.enter := by
  rw [List.map_map]
  refine List.map_congr_left fun name inside => ?_
  have step := isStep_of_name (proper name inside)
  have up : name.toList ≠ ['.', '.'] := fun up =>
    (proper name inside).notUp (String.toList_injective (up.trans (by decide)))
  simp [stepOfPiece, step.filled, step.moves, up]

theorem utf8ByteSize_intercalate (names : List String) :
    ("/".intercalate names).utf8ByteSize = (names.map (·.utf8ByteSize + 1)).sum - 1 := by
  induction names with
  | nil => rfl
  | cons name rest ih =>
    cases rest with
    | nil => simp
    | cons next more =>
      rw [String.intercalate_cons_cons, String.utf8ByteSize_append, String.utf8ByteSize_append, ih]
      simp only [List.map_cons, List.sum_cons, show "/".utf8ByteSize = 1 from rfl]
      omega

theorem size_rootedNames (filled : names ≠ []) :
    (rootedNames names).text.utf8ByteSize = (names.map (·.utf8ByteSize + 1)).sum := by
  obtain ⟨first, rest, rfl⟩ := List.exists_cons_of_ne_nil filled
  rw [rootedNames, String.utf8ByteSize_append, utf8ByteSize_intercalate, List.map_cons, List.sum_cons,
    show "/".utf8ByteSize = 1 from rfl]
  omega

theorem not_mem_intercalate {c : Char} {pieces : List (List Char)} (other : c ≠ '/')
    (free : ∀ piece ∈ pieces, c ∉ piece) : c ∉ ['/'].intercalate pieces := by
  induction pieces with
  | nil => simp
  | cons piece rest ih =>
    obtain ⟨first, free⟩ := List.forall_mem_cons.mp free
    cases rest with
    | nil => simpa using first
    | cons next more => simpa [List.intercalate_cons_cons, first, other] using ih free

theorem itinerary_ofNames (filled : names ≠ []) (proper : ∀ name ∈ names, name ≠ "" ∧ '/' ∉ name.toList) :
    Disk.itinerary here (ofNames names).text = (here, (names.map String.toList).map stepOfPiece) := by
  unfold Disk.itinerary
  split
  case h_1 rest root => exact absurd (by rw [root]; rfl) (head?_ofNames filled proper)
  case h_2 => rw [stepsOf_eq, pieces_ofNames filled fun name inside => (proper name inside).2]

theorem resolve_pieces (filled : names ≠ []) (plain : ∀ name ∈ names, name ≠ "" ∧ '/' ∉ name.toList)
    (noNul : ∀ name ∈ names, '\x00' ∉ name.toList) (short : (ofNames names).text.utf8ByteSize ≤ pathLimit) :
    Disk.resolve root here true (ofNames names) =
      Disk.walk root true Disk.linkLimit here ((names.map String.toList).map stepOfPiece) := by
  have free : ¬ (ofNames names).text.contains '\x00' = true := by
    rw [String.contains_char_eq, toList_ofNames, decide_eq_true_eq]
    exact not_mem_intercalate (by decide) (List.forall_mem_map.mpr noNul)
  rw [Disk.resolve, if_neg free, if_neg (by simp [isEmpty_ofNames filled plain]), if_neg (Nat.not_lt.mpr short),
    itinerary_ofNames filled plain]

theorem resolve_ofNames (filled : names ≠ []) (proper : ∀ name ∈ names, IsFileName name)
    (short : (ofNames names).text.utf8ByteSize ≤ pathLimit) :
    Disk.resolve root here true (ofNames names) =
      Disk.walk root true Disk.linkLimit here (names.map Step.enter) := by
  rw [resolve_pieces filled (plain_of_proper proper) (fun name inside => (proper name inside).noNul) short,
    steps_of_names proper]

theorem find_ofNames (filled : names ≠ []) (proper : ∀ name ∈ names, IsFileName name)
    (there : root.get? (here ++ names) = some node) (own : ∀ target, node ≠ .link target)
    (short : (ofNames names).text.utf8ByteSize ≤ pathLimit) :
    Disk.find root here true (ofNames names) = .ok (here ++ names, node) := by
  rw [Disk.find, resolve_ofNames filled proper short,
    Disk.walk_names (fun name inside => (proper name inside).short) there own]

theorem resolve_dotNames (proper : ∀ name ∈ names, IsFileName name)
    (short : (ofNames ("." :: names)).text.utf8ByteSize ≤ pathLimit) :
    Disk.resolve root here true (ofNames ("." :: names)) =
      Disk.walk root true Disk.linkLimit here (names.map Step.enter) := by
  have plain : ∀ name ∈ "." :: names, name ≠ "" ∧ '/' ∉ name.toList :=
    List.forall_mem_cons.mpr ⟨by decide, plain_of_proper proper⟩
  have noNul : ∀ name ∈ "." :: names, '\x00' ∉ name.toList :=
    List.forall_mem_cons.mpr ⟨by decide, fun name inside => (proper name inside).noNul⟩
  have stay : stepOfPiece ".".toList = .stay := rfl
  rw [resolve_pieces (List.cons_ne_nil _ _) plain noNul short, List.map_cons, List.map_cons, stay,
    steps_of_names proper]
  exact Disk.walk.eq_2 ..

theorem find_dotNames (proper : ∀ name ∈ names, IsFileName name)
    (there : root.get? (here ++ names) = some node) (own : ∀ target, node ≠ .link target)
    (short : (ofNames ("." :: names)).text.utf8ByteSize ≤ pathLimit) :
    Disk.find root here true (ofNames ("." :: names)) = .ok (here ++ names, node) := by
  rw [Disk.find, resolve_dotNames proper short,
    Disk.walk_names (fun name inside => (proper name inside).short) there own]

theorem find_rootedNames (filled : names ≠ []) (proper : ∀ name ∈ names, IsFileName name)
    (there : root.get? names = some node) (own : ∀ target, node ≠ .link target)
    (short : (rootedNames names).text.utf8ByteSize ≤ pathLimit) :
    Disk.find root here true (rootedNames names) = .ok (names, node) := by
  have text : (rootedNames names).text.toList = '/' :: (ofNames names).text.toList := by
    rw [toList_rootedNames, toList_ofNames]
    rfl
  have noNul : (rootedNames names).text.contains '\x00' = false := by
    have free : ∀ piece ∈ names.map String.toList, '\x00' ∉ piece :=
      List.forall_mem_map.mpr fun name inside => (proper name inside).noNul
    rw [String.contains_char_eq, text, toList_ofNames, decide_eq_false_iff_not, List.mem_cons, not_or]
    exact ⟨by decide, not_mem_intercalate (by decide) free⟩
  have some : (rootedNames names).isEmpty = false := by
    rw [isEmpty, String.isEmpty_eq_false_iff]
    intro none
    simp [none] at text
  have way : Disk.itinerary here (rootedNames names).text = ([], names.map Step.enter) := by
    rw [Disk.itinerary, text]
    simp only
    rw [stepsOf_eq, pieces_ofNames filled fun name inside => (proper name inside).whole, steps_of_names proper]
  refine Disk.find_of_walk noNul some short ?_
  have there : root.get? ([] ++ names) = Option.some node := there
  rw [way]
  exact Disk.walk_names (fun name inside => (proper name inside).short) there own

end Path

end TagMenu
