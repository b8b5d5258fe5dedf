import Mathlib
import TagMenu.Disk.Resolve

namespace TagMenu.Disk

variable {root node : Node} {here place : Place} {links : Nat} {few many steps : List Step}

/-- The same steps, some of those left out that stay in a directory. -/
inductive Fewer : List Step → List Step → Prop
  | done : Fewer [] []
  | drop {few many : List Step} (fewer : Fewer few many) : Fewer few (.stay :: many)
  | keep {few many : List Step} (step : Step) (fewer : Fewer few many) : Fewer (step :: few) (step :: many)

theorem Fewer.append (first : List Step) (fewer : Fewer few many) : Fewer (first ++ few) (first ++ many) := by
  induction first with
  | nil => exact fewer
  | cons step rest ih => exact .keep step ih

def moves (steps : List Step) : List Step := steps.filter (· ≠ .stay)

theorem moves_fewer (steps : List Step) : Fewer (moves steps) steps := by
  induction steps with
  | nil => exact .done
  | cons step rest ih =>
    by_cases stays : step = .stay
    · subst stays
      simpa [moves] using Fewer.drop ih
    · simpa [moves, stays] using Fewer.keep step ih

theorem walk_fewer (walked : walk root true links here many = .ok (.found place node)) (fewer : Fewer few many) :
    walk root true links here few = .ok (.found place node) := by
  -- On the walk of `many`: a link puts its own steps in front, so no measure of the list alone will do.
  fun_induction walk root true links here many generalizing few with
  | case1 links here node found =>
    cases fewer
    simpa only [walk, found] using walked
  | case3 links here rest ih =>
    cases fewer with
    | drop fewer => exact ih walked fewer
    | keep step fewer =>
      rw [walk]
      exact ih walked fewer
  | case4 links here rest ih =>
    cases fewer with
    | keep step fewer =>
      rw [walk]
      exact ih walked fewer
  | case9 links here name rest place short content modified there =>
    rename_i last
    cases fewer with
    | keep step fewer =>
      cases List.isEmpty_iff.mp last
      cases fewer
      simpa [walk, short, there, place] using walked
  | case11 links here name rest place short entries modified there =>
    rename_i ih
    cases fewer with
    | keep step fewer =>
      simp only [walk, short, if_false, there, place]
      exact ih walked fewer
  | case12 links here name rest place short target there =>
    rename_i stop
    simp at stop
  | case14 here name rest place short target there inside links start first leads =>
    rename_i ih
    cases fewer with
    | keep step fewer =>
      simp only [walk, short, if_false, there, place, leads, Bool.not_true, Bool.false_eq_true, and_false]
      exact ih walked (fewer.append first)
  | _ => cases walked

theorem walk_get? {follow : Bool} (walked : walk root follow links here steps = .ok (.found place node)) :
    root.get? place = some node := by
  fun_induction walk root follow links here steps with
  | case1 | case9 | case12 =>
    obtain ⟨same, rfl⟩ := by simpa using walked
    rw [← same]
    assumption
  | case3 | case4 | case11 | case14 =>
    rename_i ih
    exact ih walked
  | _ => cases walked

def stepOf? : Path.Component → Option Step
  | .parent => some .up
  | .name name => some (.enter name)
  | .root | .current => none

theorem moves_stepsOf (chars : List Char) :
    moves (stepsOf chars) = ((Text.pieces '/' chars).filterMap Path.componentOfPiece?).filterMap stepOf? := by
  unfold stepsOf
  induction Text.pieces '/' chars with
  | nil => rfl
  | cons piece rest ih =>
    by_cases stays : piece = [] ∨ piece = ['.']
    · simpa [moves, Path.componentOfPiece?, stays] using ih
    · by_cases up : piece = ['.', '.']
      · simpa [moves, Path.componentOfPiece?, up, stepOf?] using ih
      · simpa [moves, Path.componentOfPiece?, stays, up, stepOf?] using ih

theorem componentOfPiece?_ne_root (piece : List Char) : Path.componentOfPiece? piece ≠ some .root := by
  unfold Path.componentOfPiece?
  split
  · simp
  · split <;> simp

theorem components_of_root (rest : List Char) :
    Path.componentsOf ('/' :: rest) = .root :: (Text.pieces '/' rest).filterMap Path.componentOfPiece? := rfl

/-- A full stop at the start is a component, but no step. -/
theorem components_of_relative {chars : List Char} (relative : chars.head? ≠ some '/') :
    (Path.componentsOf chars).head? ≠ some .root ∧ (Path.componentsOf chars).filterMap stepOf? =
      ((Text.pieces '/' chars).filterMap Path.componentOfPiece?).filterMap stepOf? := by
  unfold Path.componentsOf
  split
  · simp at relative
  · split
    case h_1 rest start =>
      rw [start]
      exact ⟨by simp, rfl⟩
    case h_2 =>
      refine ⟨fun root => ?_, rfl⟩
      obtain ⟨piece, -, found⟩ := List.mem_filterMap.mp (List.mem_of_mem_head? root)
      exact componentOfPiece?_ne_root piece found

theorem itinerary_key (here : Place) (path : Path) :
    (itinerary here path.text).1 = (if path.key.head? = some .root then [] else here) ∧
      moves (itinerary here path.text).2 = path.key.filterMap stepOf? := by
  rw [Path.key, Path.components, itinerary]
  split
  case h_1 rest start =>
    rw [start, components_of_root]
    exact ⟨rfl, moves_stepsOf rest⟩
  case h_2 absolute =>
    have relative : path.text.toList.head? ≠ some '/' := by
      intro root
      obtain ⟨rest, start⟩ := List.head?_eq_some_iff.mp root
      exact absolute rest start
    obtain ⟨start, steps⟩ := components_of_relative relative
    exact ⟨(if_neg start).symm, (moves_stepsOf _).trans steps.symm⟩

theorem find_walks {path : Path} {place : Place} (found : find root here true path = .ok (place, node)) :
    walk root true linkLimit (itinerary here path.text).1 (itinerary here path.text).2 =
      .ok (.found place node) := by
  have resolved : resolve root here true path = .ok (.found place node) := by
    unfold find at found
    split at found
    · cases found
      assumption
    · cases found
    · cases found
  unfold resolve at resolved
  split at resolved
  · cases resolved
  · split at resolved
    · cases resolved
    · split at resolved
      · cases resolved
      · exact resolved

theorem find_of_walk {path : Path} {place : Place} (noNul : path.text.contains '\x00' = false)
    (filled : path.isEmpty = false) (short : path.text.utf8ByteSize ≤ pathLimit)
    (walked : walk root true linkLimit (itinerary here path.text).1 (itinerary here path.text).2 =
      .ok (.found place node)) : find root here true path = .ok (place, node) := by
  have resolved : resolve root here true path = .ok (.found place node) := by
    rw [resolve, if_neg (by simp [noNul]), if_neg (by simp [filled]), if_neg (Nat.not_lt.mpr short)]
    exact walked
  rw [find, resolved]

theorem find_get? {path : Path} {place : Place} (found : find root here true path = .ok (place, node)) :
    root.get? place = some node :=
  walk_get? (find_walks found)

theorem find_spelling {left right : Path} (same : left.key = right.key) {first second : Place × Node}
    (foundLeft : find root here true left = .ok first) (foundRight : find root here true right = .ok second) :
    first = second := by
  obtain ⟨place, node⟩ := first
  obtain ⟨other, last⟩ := second
  obtain ⟨startLeft, stepsLeft⟩ := itinerary_key here left
  obtain ⟨startRight, stepsRight⟩ := itinerary_key here right
  have walkedLeft := walk_fewer (find_walks foundLeft) (moves_fewer _)
  have walkedRight := walk_fewer (find_walks foundRight) (moves_fewer _)
  rw [startLeft, stepsLeft, same] at walkedLeft
  rw [startRight, stepsRight, walkedLeft] at walkedRight
  cases walkedRight
  rfl

end TagMenu.Disk
