import Mathlib
import TagMenu.Text.Split

namespace TagMenu.Text

variable {separator c : Char} {chars : List Char}

theorem pieces_ne_nil (separator : Char) (chars : List Char) : pieces separator chars ≠ [] := by
  cases chars with
  | nil => simp [pieces]
  | cons c rest =>
    rw [pieces]
    split
    · simp
    · split <;> simp

theorem pieces_eq_splitOn (separator : Char) (chars : List Char) :
    pieces separator chars = chars.splitOn separator := by
  induction chars with
  | nil => rfl
  | cons c rest ih =>
    rw [pieces, List.splitOn_eq_splitOnP, List.splitOnP_cons_eq_if_modifyHead, ← List.splitOn_eq_splitOnP, ← ih]
    by_cases here : c = separator
    · simp [here]
    · cases split : pieces separator rest with
      | nil => exact absurd split (pieces_ne_nil separator rest)
      | cons first others => simp [here]

theorem pieces_append (separator : Char) (before after : List Char) :
    pieces separator (before ++ separator :: after) = pieces separator before ++ pieces separator after := by
  simp only [pieces_eq_splitOn, List.splitOn_eq_splitOnP]
  exact List.splitOnP_append_cons before after (by simp)

theorem pieces_free (separator : Char) (free : separator ∉ chars) : pieces separator chars = [chars] := by
  have alone : ([separator].intercalate [chars]).splitOn separator = [chars] :=
    List.splitOn_intercalate separator (List.forall_mem_singleton.mpr free) (List.cons_ne_nil chars [])
  rwa [List.intercalate_singleton, ← pieces_eq_splitOn] at alone

theorem not_mem_pieces (separator : Char) (chars : List Char) :
    ∀ piece ∈ pieces separator chars, separator ∉ piece := by
  fun_induction pieces separator chars with
  | case1 => simp
  | case2 rest ih => simpa using ih
  | case3 c rest other none => exact absurd none (pieces_ne_nil separator rest)
  | case4 c rest other first others split ih =>
    rw [split] at ih
    obtain ⟨free, later⟩ := List.forall_mem_cons.mp ih
    exact List.forall_mem_cons.mpr ⟨by simp [free, Ne.symm other], later⟩

theorem subset_of_mem_pieces (separator : Char) (chars : List Char) :
    ∀ piece ∈ pieces separator chars, piece ⊆ chars := by
  fun_induction pieces separator chars with
  | case1 => simp
  | case2 rest ih =>
    exact List.forall_mem_cons.mpr
      ⟨List.nil_subset _, fun piece member => List.subset_cons_of_subset _ (ih piece member)⟩
  | case3 c rest other none => exact absurd none (pieces_ne_nil separator rest)
  | case4 c rest other first others split ih =>
    rw [split] at ih
    obtain ⟨inside, later⟩ := List.forall_mem_cons.mp ih
    exact List.forall_mem_cons.mpr
      ⟨List.cons_subset_cons c inside, fun piece member => List.subset_cons_of_subset _ (later piece member)⟩

theorem pieces_ended (separator : Char) (chars : List Char) :
    pieces separator (chars ++ [separator]) = pieces separator chars ++ [[]] := by
  induction chars with
  | nil => simp [pieces]
  | cons c rest ih =>
    rw [List.cons_append, pieces, pieces, ih]
    split
    · rfl
    · obtain ⟨first, others, split⟩ := List.exists_cons_of_ne_nil (pieces_ne_nil separator rest)
      rw [split]
      rfl

section Extension

variable {α : Type} [DecidableEq α] {mark : α} {after : List α} {name : List α}

theorem afterLast_cases (mark : α) (name : List α) :
    let after := (name.reverse.takeWhile (· != mark)).reverse
    mark ∉ after ∧ (after = name ∨ ∃ before, name = before ++ mark :: after) := by
  intro after
  have whole : name = (name.reverse.dropWhile (· != mark)).reverse ++ after := by
    rw [← List.reverse_append, List.takeWhile_append_dropWhile, List.reverse_reverse]
  refine ⟨fun inside => ?_, ?_⟩
  · simpa using List.mem_takeWhile_imp (List.mem_reverse.mp inside)
  · cases rest : name.reverse.dropWhile (· != mark) with
    | nil => exact .inl (by simpa [rest] using whole.symm)
    | cons other before =>
      have first := List.head?_dropWhile_not (p := (· != mark)) name.reverse
      obtain rfl : other = mark := by simpa [rest] using first
      exact .inr ⟨before.reverse, by simpa [rest] using whole⟩

theorem cutExtension_append (free : mark ∉ after) (stem : List α) :
    cutExtension mark (stem ++ mark :: after) =
      if stem.isEmpty then (stem ++ mark :: after, none) else (stem, some after) := by
  have plain : ∀ other ∈ after.reverse, (other != mark) = true := fun other inside => by
    simpa using fun same : other = mark => free (same ▸ List.mem_reverse.mp inside)
  have last : ((stem ++ mark :: after).reverse.takeWhile (· != mark)).reverse = after := by
    have reversed : (stem ++ mark :: after).reverse = after.reverse ++ mark :: stem.reverse := by simp
    rw [reversed, List.takeWhile_append_of_pos plain]
    simp
  have count : (stem ++ mark :: after).length - after.length - 1 = stem.length := by
    rw [List.length_append, List.length_cons]
    omega
  have longer : ¬ after.length = (stem ++ mark :: after).length := by
    rw [List.length_append, List.length_cons]
    omega
  unfold cutExtension
  simp only [last, count, List.take_left, longer, decide_false, Bool.or_false]

theorem cutExtension_eq_some :
    (cutExtension mark name).2 = some after ↔ mark ∉ after ∧ ∃ stem, stem ≠ [] ∧ name = stem ++ mark :: after := by
  constructor
  · intro found
    obtain ⟨free, whole | ⟨stem, split⟩⟩ := afterLast_cases mark name
    · unfold cutExtension at found
      simp [whole] at found
    · generalize (name.reverse.takeWhile (· != mark)).reverse = last at free split
      rw [split, cutExtension_append free] at found
      cases stem with
      | nil => cases found
      | cons c rest =>
        cases found
        exact ⟨free, c :: rest, List.cons_ne_nil c rest, split⟩
  · rintro ⟨free, stem, filled, rfl⟩
    rw [cutExtension_append free, if_neg (by simpa using filled)]

end Extension

theorem cutFirst?_eq_none (free : separator ∉ chars) : cutFirst? separator chars = none := by
  induction chars with
  | nil => rfl
  | cons c rest ih =>
    simp only [List.mem_cons, not_or] at free
    rw [cutFirst?, if_neg (Ne.symm free.1), ih free.2]
    rfl

theorem cutFirst?_of_mem (member : separator ∈ chars) :
    cutFirst? separator chars =
      some (chars.takeWhile (· ≠ separator), (chars.dropWhile (· ≠ separator)).tail) := by
  induction chars with
  | nil => cases member
  | cons c rest ih =>
    by_cases here : c = separator
    · simp [cutFirst?, here]
    · have later : separator ∈ rest := (List.mem_cons.mp member).resolve_left (Ne.symm here)
      simp [cutFirst?, here, ih later]

theorem dropEndWhile_eq (drop : Char → Bool) (chars : List Char) :
    dropEndWhile drop chars = chars.rdropWhile drop := by
  induction chars with
  | nil => simp [dropEndWhile]
  | cons c rest ih =>
    rw [dropEndWhile, ih, List.rdropWhile, List.rdropWhile, List.reverse_cons, List.dropWhile_append]
    cases kept : rest.reverse.dropWhile drop with
    | nil => by_cases dropped : drop c <;> simp [dropped]
    | cons last others => simp

theorem trimChars_eq (chars : List Char) : trimChars chars = (chars.dropWhile isBlank).rdropWhile isBlank :=
  dropEndWhile_eq isBlank _

theorem dropFinal_eq (c : Char) (chars : List Char) :
    dropFinal c chars = if chars.getLast? = some c then chars.dropLast else chars := by
  fun_induction dropFinal c chars with
  | case1 => rfl
  | case2 => simp
  | case3 d different => simp [different]
  | case4 d e rest ih =>
    rw [ih, List.getLast?_cons_cons]
    split <;> simp

theorem linesOfPieces_ended (ended : List (List Char)) :
    linesOfPieces (ended ++ [[]]) = ended.map (dropFinal '\r') := by
  induction ended with
  | nil => rfl
  | cons line rest ih =>
    cases rest with
    | nil => rfl
    | cons next more => exact congrArg (dropFinal '\r' line :: ·) ih

theorem flatMap_ended (ended : List (List Char)) :
    ended.flatMap (· ++ [c]) = [c].intercalate (ended ++ [[]]) := by
  induction ended with
  | nil => rfl
  | cons line rest ih =>
    rw [List.flatMap_cons, ih]
    cases rest <;> simp [List.intercalate, List.intersperse]

theorem lines_ended {ended : List (List Char)}
    (whole : ∀ line ∈ ended, '\n' ∉ line ∧ line.getLast? ≠ some '\r') :
    lines (ended.flatMap (· ++ ['\n'])) = ended := by
  have free : ∀ piece ∈ ended ++ [[]], '\n' ∉ piece := by
    intro piece member
    rcases List.mem_append.mp member with member | member
    · exact (whole piece member).1
    · rw [List.mem_singleton.mp member]
      exact List.not_mem_nil
  rw [lines, flatMap_ended, pieces_eq_splitOn, List.splitOn_intercalate '\n' free (by simp), linesOfPieces_ended]
  conv_rhs => rw [← List.map_id ended]
  refine List.map_congr_left fun line member => ?_
  rw [dropFinal_eq, if_neg (whole line member).2]
  rfl

end TagMenu.Text
