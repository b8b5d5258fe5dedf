import Mathlib
import TagMenu.Proofs.Path.Names

namespace TagMenu

open Disk (Node Place Step Fewer Timestamp linkLimit moves pathLimit stepOf? walk)

variable {path : Path} {here place : Place} {root node : Node} {entries : List (FileName × Node)} {modified : Timestamp}
  {steps : List (List Char)} {components : List Path.Component} {component : Path.Component} {piece chars : List Char}
  {follow double closed : Bool} {links : Nat}

namespace Disk

theorem Fewer.concat {few many : List Step} (fewer : Fewer few many) (last : Step) :
    Fewer (few ++ [last]) (many ++ [last]) := by
  induction fewer with
  | done => exact .keep last .done
  | drop _ ih => exact .drop ih
  | keep step _ ih => exact .keep step ih

theorem stepsOf_ended (ends : chars = [] ∨ chars.getLast? = some '/') :
    ∃ before, stepsOf chars = before ++ [.stay] := by
  rcases ends with rfl | ends
  · exact ⟨[], rfl⟩
  · obtain ⟨before, rfl⟩ := List.getLast?_eq_some_iff.mp ends
    exact ⟨_, by rw [stepsOf, Text.pieces_ended, List.map_append]; rfl⟩

theorem readable_of_find {found : Place × Node} (leads : find root here follow path = .ok found) :
    path.isEmpty = false ∧ '\x00' ∉ path.text.toList := by
  unfold find resolve at leads
  split_ifs at leads with nul empty
  exact ⟨Bool.eq_false_iff.mpr empty, fun inside => nul (by simpa using inside)⟩

theorem itinerary_ended (here : Place) (ends : path.text.endsWith "/" = true) :
    ∃ before, (itinerary here path.text).2 = before ++ [.stay] := by
  have last := (Path.endsWith_slash path.text).mp ends
  unfold itinerary
  split
  case h_1 rest text =>
    rw [text] at last
    cases rest with
    | nil => exact stepsOf_ended (.inl rfl)
    | cons c more => exact stepsOf_ended (.inr (by simpa using last))
  case h_2 => exact stepsOf_ended (.inr last)

theorem moves_closed (here : Place) (ends : closed = true → path.text.endsWith "/" = true) :
    Fewer (moves (itinerary here path.text).2 ++ if closed then [.stay] else []) (itinerary here path.text).2 := by
  cases closed with
  | false => simpa using moves_fewer _
  | true =>
    obtain ⟨before, split⟩ := itinerary_ended here (ends rfl)
    have same : moves (before ++ [.stay]) = moves before := by simp [moves]
    rw [split, if_pos rfl, same]
    exact (moves_fewer before).concat .stay

end Disk

namespace Path

theorem stepOf?_of_piece (found : componentOfPiece? piece = some component) :
    stepOf? component = some (stepOfPiece piece) := by
  unfold componentOfPiece? at found
  unfold stepOfPiece
  split at found
  · cases found
  case isFalse kept =>
    rw [if_neg kept]
    split at found
    case isTrue up =>
      cases found
      rw [if_pos up, stepOf?]
    case isFalse other =>
      cases found
      rw [if_neg other, stepOf?]

/-- Components that are read from pieces of a text. -/
def Read (chars : List Char) (components : List Component) : Prop :=
  ∀ component ∈ components, ∃ piece ∈ Text.pieces '/' chars, componentOfPiece? piece = some component

theorem Read.isStep (read : Read chars components) : ∀ step ∈ components.map (·.text.toList), IsStep step := by
  refine steps_of_components fun component inside => ?_
  obtain ⟨piece, listed, found⟩ := read component inside
  exact isStep_of_component (Text.not_mem_pieces '/' _ piece listed) found

theorem Read.way (read : Read chars components) :
    (components.map (·.text.toList)).map stepOfPiece = components.filterMap stepOf? := by
  rw [List.map_map, ← List.filterMap_eq_map]
  refine List.filterMap_congr fun component inside => ?_
  obtain ⟨piece, -, found⟩ := read component inside
  rw [stepOf?_of_piece found, ← text_of_component found]
  rfl

theorem Read.subset (read : Read chars components) : ∀ step ∈ components.map (·.text.toList), step ⊆ chars := by
  refine List.forall_mem_map.mpr fun component inside => ?_
  obtain ⟨piece, listed, found⟩ := read component inside
  rw [text_of_component found]
  exact Text.subset_of_mem_pieces '/' _ piece listed

/-- How a path is made absolute at a place: after the names that lead to where it starts come its components. -/
structure Extends (here : Place) (path : Path) (front : Place) (components : List Component) : Prop where
  read : Read path.text.toList components
  text : ∃ double, (path.withoutSlash (rootedNames here)).text.toList =
    rooted double (front.map String.toList ++ components.map (·.text.toList))
  start : (Disk.itinerary here path.text).1 = front
  way : moves (Disk.itinerary here path.text).2 = components.filterMap stepOf?

theorem extends_of_isAbsolute (here : Place) (absolute : path.isAbsolute = true) :
    ∃ components, Extends here path [] components := by
  obtain ⟨rest, text, parts, written⟩ := toList_withoutSlash_of_isAbsolute absolute (rootedNames here)
  obtain ⟨start, steps⟩ := Disk.itinerary_key here path
  rw [key, parts] at start steps
  refine ⟨bodyComponents rest, fun component inside => ?_, ⟨_, written⟩, start, steps⟩
  obtain ⟨piece, listed, found⟩ := List.mem_filterMap.mp inside
  exact ⟨piece, by rw [text, Text.pieces, if_pos rfl]; exact List.mem_cons_of_mem _ listed, found⟩

theorem filterMap_dropCurrent (components : List Component) :
    (dropCurrent components).filterMap stepOf? = components.filterMap stepOf? := by
  unfold dropCurrent
  split <;> rfl

theorem extends_of_relative (relative : ¬ path.isAbsolute = true) (proper : ∀ name ∈ here, IsFileName name) :
    Extends here path here (dropCurrent path.components) := by
  have first : path.text.toList.head? ≠ some '/' := mt isAbsolute_iff.mpr relative
  have before : ∀ step ∈ here.map String.toList, IsStep step :=
    List.forall_mem_map.mpr fun name inside => isStep_of_name (proper name inside)
  obtain ⟨start, steps⟩ := Disk.itinerary_key here path
  have noRoot : path.key.head? ≠ some .root := (Disk.components_of_relative first).1
  refine ⟨fun _ => piece_of_relative first, ⟨false, ?_⟩, by rw [start, if_neg noRoot], ?_⟩
  · exact toList_withoutSlash_of_relative relative (toList_rootedNames here) before
  · rw [steps, filterMap_dropCurrent, key]

theorem walk_rooted (here : Place) (proper : ∀ step ∈ steps, IsStep step) (some : closed = true → steps ≠ [])
    (text : path.text.toList = rooted double steps ++ (if closed then ['/'] else [])) :
    walk root follow links (Disk.itinerary here path.text).1 (Disk.itinerary here path.text).2 =
      walk root follow links [] (steps.map stepOfPiece ++ if closed then [.stay] else []) := by
  have body : walk root follow links [] (Disk.stepsOf (['/'].intercalate steps ++ if closed then ['/'] else [])) =
      walk root follow links [] (steps.map stepOfPiece ++ if closed then [.stay] else []) := by
    rw [stepsOf_eq]
    by_cases none : steps = []
    · obtain rfl : closed = false := by simpa [none] using some
      subst none
      exact Disk.walk.eq_2 ..
    · rw [pieces_of_steps proper none, List.map_append]
      cases closed <;> rfl
  rw [← body, Disk.itinerary, text, rooted, List.append_assoc, List.cons_append]
  cases double with
  | false => rfl
  | true =>
    have twice (rest : List Char) : Disk.stepsOf ('/' :: rest) = .stay :: Disk.stepsOf rest := by
      rw [stepsOf_eq, stepsOf_eq, Text.pieces, if_pos rfl]
      rfl
    show walk root follow links [] (Disk.stepsOf ('/' :: _)) = _
    rw [twice, walk]
    rfl

end Path

namespace Disk

theorem find_absolute (there : root.get? here = some (.directory entries modified))
    (proper : ∀ name ∈ here, IsFileName name) (found : find root here true path = .ok (place, node))
    (short : (path.absolute (Path.rootedNames here)).text.utf8ByteSize ≤ pathLimit) :
    find root here true (path.absolute (Path.rootedNames here)) = .ok (place, node) := by
  obtain ⟨filled, noNul⟩ := readable_of_find found
  -- It starts at the root, and at once comes to where the path starts.
  obtain ⟨front, components, extend, own, outer, changed, above⟩ : ∃ front components,
      Path.Extends here path front components ∧ (∀ name ∈ front, IsFileName name) ∧
        ∃ outer changed, root.get? front = some (.directory outer changed) := by
    by_cases absolute : path.isAbsolute = true
    · obtain ⟨components, extend⟩ := Path.extends_of_isAbsolute here absolute
      cases here with
      | nil => exact ⟨[], components, extend, by simp, entries, modified, there⟩
      | cons name rest =>
        obtain ⟨outer, changed, rfl⟩ := Node.directory_of_get? there
        exact ⟨[], components, extend, by simp, outer, changed, rfl⟩
    · exact ⟨here, _, Path.extends_of_relative absolute proper, proper, entries, modified, there⟩
  obtain ⟨double, written⟩ := extend.text
  have names : ∀ step ∈ front.map String.toList, Path.IsStep step :=
    List.forall_mem_map.mpr fun name inside => Path.isStep_of_name (own name inside)
  have steps := List.forall_mem_append.mpr ⟨names, extend.read.isStep⟩
  obtain ⟨closed, closes, text⟩ := Path.toList_slashed written steps (path.text.endsWith "/")
  rw [← Path.absolute_eq filled] at text
  have walked := walk_fewer (find_walks found) (moves_closed here fun ends => (closes ends).1)
  rw [extend.start, extend.way] at walked
  refine find_of_walk ?_ ?_ short ?_
  · have clean : ∀ step ∈ front.map String.toList ++ components.map (·.text.toList), '\x00' ∉ step := by
      refine List.forall_mem_append.mpr ⟨List.forall_mem_map.mpr fun name inside => (own name inside).noNul, ?_⟩
      exact fun step inside nul => noNul (extend.read.subset step inside nul)
    have free := Path.not_mem_intercalate (by decide) clean
    rw [String.contains_char_eq, decide_eq_false_iff_not, text, Path.rooted]
    cases double <;> cases closed <;> simpa using free
  · rw [Path.isEmpty, String.isEmpty_eq_false_iff]
    intro none
    simp [none, Path.rooted] at text
  · rw [Path.walk_rooted here steps (fun ends => (closes ends).2) text, List.map_append, List.append_assoc,
      Path.steps_of_names own, walk_through (fun name inside => (own name inside).short) above, extend.read.way]
    exact walked

end Disk

end TagMenu
