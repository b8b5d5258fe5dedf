import Mathlib
import TagMenu.Proofs.Text.Split
import TagMenu.Path

namespace TagMenu.Path

variable {path base directory : Path} {piece chars tail : List Char} {steps names : List (List Char)} {double : Bool}
  {component : Component} {components : List Component}

/-- A piece that stands between slashes and is not left out there. -/
structure IsStep (piece : List Char) : Prop where
  filled : piece ≠ []
  moves : piece ≠ ['.']
  whole : '/' ∉ piece

theorem IsStep.head?_ne (step : IsStep piece) (rest : List Char) : (piece ++ rest).head? ≠ some '/' := by
  intro slash
  cases piece with
  | nil => exact step.filled rfl
  | cons c more =>
    obtain rfl : c = '/' := by simpa using slash
    exact step.whole (List.mem_cons_self ..)

theorem component_of_isStep (step : IsStep piece) :
    ∃ component, componentOfPiece? piece = some component ∧ component.text.toList = piece := by
  have kept : ¬ (piece = [] ∨ piece = ['.']) := by simp [step.filled, step.moves]
  by_cases up : piece = ['.', '.']
  · exact ⟨.parent, by simp [componentOfPiece?, up], by simp [Component.text, up]⟩
  · exact ⟨.name (String.ofList piece), by rw [componentOfPiece?, if_neg kept, if_neg up], by simp [Component.text]⟩

theorem text_of_component (found : componentOfPiece? piece = some component) : component.text.toList = piece := by
  unfold componentOfPiece? at found
  split at found
  · cases found
  · split at found
    case isTrue up =>
      cases found
      rw [up]
      rfl
    case isFalse =>
      cases found
      rw [Component.text, String.toList_ofList]

theorem isStep_of_component (whole : '/' ∉ piece) (found : componentOfPiece? piece = some component) :
    IsStep component.text.toList := by
  rw [text_of_component found]
  have kept : ¬ (piece = [] ∨ piece = ['.']) := by
    intro stays
    rw [componentOfPiece?, if_pos stays] at found
    cases found
  rw [not_or] at kept
  exact ⟨kept.1, kept.2, whole⟩

theorem isStep_of_body (member : component ∈ bodyComponents chars) : IsStep component.text.toList := by
  obtain ⟨piece, listed, found⟩ := List.mem_filterMap.mp member
  exact isStep_of_component (Text.not_mem_pieces '/' _ piece listed) found

theorem piece_of_relative (relative : chars.head? ≠ some '/') (member : component ∈ dropCurrent (componentsOf chars)) :
    ∃ piece ∈ Text.pieces '/' chars, componentOfPiece? piece = some component := by
  unfold componentsOf at member
  split at member
  · simp at relative
  · rw [← List.mem_filterMap]
    split at member
    case h_1 rest start =>
      have inside : rest ⊆ Text.pieces '/' chars := start ▸ List.subset_cons_self ..
      exact List.filterMap_subset _ inside member
    case h_2 =>
      unfold dropCurrent at member
      split at member
      case h_1 rest current => exact current ▸ List.mem_cons_of_mem _ member
      case h_2 => exact member

theorem isStep_of_relative (relative : chars.head? ≠ some '/')
    (member : component ∈ dropCurrent (componentsOf chars)) : IsStep component.text.toList := by
  obtain ⟨piece, listed, found⟩ := piece_of_relative relative member
  exact isStep_of_component (Text.not_mem_pieces '/' _ piece listed) found

def rooted (double : Bool) (steps : List (List Char)) : List Char :=
  '/' :: (if double then ['/'] else []) ++ ['/'].intercalate steps

theorem intercalate_concat (steps : List (List Char)) (step : List Char) :
    ['/'].intercalate (steps ++ [step]) =
      if steps = [] then step else ['/'].intercalate steps ++ '/' :: step := by
  induction steps with
  | nil => simp
  | cons first rest ih =>
    cases rest with
    | nil => simp [List.intercalate_cons_cons]
    | cons next more =>
      rw [List.cons_append, List.cons_append, List.intercalate_cons_cons, ← List.cons_append, ih]
      simp [List.intercalate_cons_cons]

theorem rooted_concat (double : Bool) (steps : List (List Char)) (step : List Char) :
    rooted double (steps ++ [step]) =
      rooted double steps ++ (if steps = [] then step else '/' :: step) := by
  rw [rooted, rooted, intercalate_concat]
  by_cases none : steps = [] <;> simp [none]

theorem getLast?_rooted (proper : ∀ step ∈ steps, IsStep step) :
    (rooted double steps).getLast? = some '/' ↔ steps = [] := by
  induction steps using List.reverseRecOn with
  | nil => cases double <;> simp [rooted]
  | append_singleton steps step ih =>
    have last := proper step (by simp)
    simp only [List.append_eq_nil_iff, List.cons_ne_nil, and_false, iff_false]
    intro ends
    have inside : step.getLast? = some '/' := by
      rw [rooted_concat] at ends
      split at ends
      · rwa [List.getLast?_append_of_ne_nil _ last.filled] at ends
      · rwa [List.append_cons, List.getLast?_append_of_ne_nil _ last.filled] at ends
    exact last.whole (List.mem_of_getLast? inside)

theorem endsWith_slash (text : String) : text.endsWith "/" = true ↔ text.toList.getLast? = some '/' := by
  rw [String.endsWith_eq_endsWith_toSlice, String.Slice.endsWith_string_iff, String.copy_toSlice]
  exact List.singleton_suffix_iff_getLast?_eq_some

theorem isAbsolute_iff : path.isAbsolute = true ↔ path.text.toList.head? = some '/' := by
  rw [isAbsolute, String.startsWith_string_iff]
  exact List.singleton_prefix_iff_head?_eq_some

theorem toList_join (relative : path.text.toList.head? ≠ some '/') (written : base.text.toList = rooted double steps)
    (proper : ∀ step ∈ steps, IsStep step) :
    (base.join path).text.toList =
      rooted double steps ++ (if steps = [] then path.text.toList else '/' :: path.text.toList) := by
  have filled : base.text.isEmpty = false := by
    rw [String.isEmpty_eq_false_iff]
    rintro none
    simp [none, rooted] at written
  have ends : base.text.endsWith "/" = true ↔ steps = [] := by rw [endsWith_slash, written, getLast?_rooted proper]
  rw [join, if_neg (mt isAbsolute_iff.mp relative), filled, Bool.false_or]
  by_cases none : steps = []
  · simp [ends.mpr none, none, written]
  · simp [mt ends.mp none, none, written]

theorem toList_append (written : base.text.toList = rooted double steps) (proper : ∀ step ∈ steps, IsStep step)
    (more : ∀ component ∈ components, IsStep component.text.toList) :
    (append base components).text.toList = rooted double (steps ++ components.map (·.text.toList)) := by
  unfold append
  induction components generalizing base steps with
  | nil => simpa using written
  | cons component rest ih =>
    obtain ⟨step, more⟩ := List.forall_mem_cons.mp more
    have relative : component.text.toList.head? ≠ some '/' := by simpa using step.head?_ne []
    have joined : (base.join ⟨component.text⟩).text.toList = _ := toList_join relative written proper
    rw [← rooted_concat] at joined
    have still : ∀ other ∈ steps ++ [component.text.toList], IsStep other :=
      List.forall_mem_append.mpr ⟨proper, by simpa using step⟩
    rw [List.foldl_cons, ih joined still more]
    simp

/-- A path in the usual form of absolute paths. There may be a slash at its end if there is a step before that. -/
def Usual (path : Path) : Prop :=
  ∃ double steps slash, (∀ step ∈ steps, IsStep step) ∧ (slash = true → steps ≠ []) ∧
    path.text.toList = rooted double steps ++ (if slash then ['/'] else [])

theorem toList_slashed (written : base.text.toList = rooted double steps) (proper : ∀ step ∈ steps, IsStep step)
    (slash : Bool) : ∃ closed : Bool, (closed = true → slash = true ∧ steps ≠ []) ∧
      (if slash then base.join ⟨""⟩ else base).text.toList = rooted double steps ++ (if closed then ['/'] else []) := by
  have joined : (base.join ⟨""⟩).text.toList = _ := toList_join (by simp) written proper
  cases slash with
  | false => exact ⟨false, nofun, by simpa using written⟩
  | true =>
    by_cases none : steps = []
    · exact ⟨false, nofun, by simpa [none] using joined⟩
    · exact ⟨true, fun _ => ⟨rfl, none⟩, by simpa [none] using joined⟩

theorem usual_of_written (written : base.text.toList = rooted double steps) (proper : ∀ step ∈ steps, IsStep step)
    (slash : Bool) : (if slash then base.join ⟨""⟩ else base).Usual := by
  obtain ⟨closed, some, text⟩ := toList_slashed written proper slash
  exact ⟨double, steps, closed, proper, fun closes => (some closes).2, text⟩

theorem append_root (components : List Component) : append ⟨""⟩ (.root :: components) = append ⟨"/"⟩ components := by
  have root : (⟨""⟩ : Path).join ⟨"/"⟩ = ⟨"/"⟩ := if_pos (isAbsolute_iff.mpr rfl)
  rw [append, List.foldl_cons, append]
  exact congrArg (components.foldl _) root

def withoutSlash (path directory : Path) : Path :=
  if path.hasDoubleRoot then append ⟨"//"⟩ (path.components.drop 1)
  else if path.isAbsolute then append ⟨""⟩ path.components
  else append directory (dropCurrent path.components)

theorem absolute?_eq (filled : path.isEmpty = false) (directory : Path) :
    path.absolute? directory = some (path.absolute directory) := by
  rw [absolute, absolute?, if_neg (by simp [filled])]
  rfl

theorem absolute_eq (filled : path.isEmpty = false) (directory : Path) :
    path.absolute directory =
      if path.text.endsWith "/" then (path.withoutSlash directory).join ⟨""⟩ else path.withoutSlash directory := by
  rw [absolute, absolute?, if_neg (by simp [filled])]
  rfl

theorem components_of_isAbsolute (rooted : path.isAbsolute = true) :
    ∃ rest, path.text.toList = '/' :: rest ∧ path.components = .root :: bodyComponents rest := by
  obtain ⟨rest, text⟩ := List.head?_eq_some_iff.mp (isAbsolute_iff.mp rooted)
  exact ⟨rest, text, by rw [components, text]; rfl⟩

theorem isAbsolute_of_hasDoubleRoot (double : path.hasDoubleRoot = true) : path.isAbsolute = true := by
  rw [hasDoubleRoot, Bool.and_eq_true, String.startsWith_string_iff] at double
  rw [isAbsolute, String.startsWith_string_iff]
  exact (List.cons_prefix_cons.mpr ⟨rfl, List.nil_prefix⟩).trans double.1

theorem steps_of_components (proper : ∀ component ∈ components, IsStep component.text.toList) :
    ∀ step ∈ components.map (·.text.toList), IsStep step := by simpa using proper

theorem toList_withoutSlash_of_isAbsolute (absolute : path.isAbsolute = true) (directory : Path) :
    ∃ rest, path.text.toList = '/' :: rest ∧ path.components = .root :: bodyComponents rest ∧
      (path.withoutSlash directory).text.toList =
        rooted path.hasDoubleRoot ((bodyComponents rest).map (·.text.toList)) := by
  obtain ⟨rest, text, parts⟩ := components_of_isAbsolute absolute
  have body : ∀ component ∈ bodyComponents rest, IsStep component.text.toList := fun _ => isStep_of_body
  refine ⟨rest, text, parts, ?_⟩
  rw [withoutSlash, if_pos absolute, parts]
  cases path.hasDoubleRoot with
  | true =>
    have root : (⟨"//"⟩ : Path).text.toList = rooted true [] := by simp [rooted]
    exact toList_append root (by simp) body
  | false =>
    have root : (⟨"/"⟩ : Path).text.toList = rooted false [] := by simp [rooted]
    rw [if_neg Bool.false_ne_true, append_root]
    exact toList_append root (by simp) body

theorem toList_withoutSlash_of_relative (relative : ¬ path.isAbsolute = true)
    (here : directory.text.toList = rooted double names) (proper : ∀ name ∈ names, IsStep name) :
    (path.withoutSlash directory).text.toList =
      rooted double (names ++ (dropCurrent path.components).map (·.text.toList)) := by
  rw [withoutSlash, if_neg (mt isAbsolute_of_hasDoubleRoot relative), if_neg relative]
  exact toList_append here proper fun _ => isStep_of_relative (mt isAbsolute_iff.mpr relative)

theorem toList_withoutSlash (here : directory.text.toList = rooted double names)
    (proper : ∀ name ∈ names, IsStep name) (path : Path) :
    ∃ double steps, (∀ step ∈ steps, IsStep step) ∧
      (path.withoutSlash directory).text.toList = rooted double steps := by
  by_cases absolute : path.isAbsolute = true
  · obtain ⟨rest, -, -, written⟩ := toList_withoutSlash_of_isAbsolute absolute directory
    exact ⟨_, _, steps_of_components fun _ => isStep_of_body, written⟩
  · have more : ∀ component ∈ dropCurrent path.components, IsStep component.text.toList := fun _ =>
      isStep_of_relative (mt isAbsolute_iff.mpr absolute)
    exact ⟨double, _, List.forall_mem_append.mpr ⟨proper, steps_of_components more⟩,
      toList_withoutSlash_of_relative absolute here proper⟩

theorem usual_absolute (filled : path.isEmpty = false) (here : directory.text.toList = rooted double names)
    (proper : ∀ name ∈ names, IsStep name) : (path.absolute directory).Usual := by
  obtain ⟨double, steps, each, written⟩ := toList_withoutSlash here proper path
  rw [absolute_eq filled]
  exact usual_of_written written each _

theorem bodyComponents_slash (chars : List Char) : bodyComponents ('/' :: chars) = bodyComponents chars := by
  simp [bodyComponents, Text.pieces, componentOfPiece?]

theorem texts_of_steps (proper : ∀ step ∈ steps, IsStep step) :
    (steps.filterMap componentOfPiece?).map (·.text.toList) = steps := by
  induction steps with
  | nil => rfl
  | cons step rest ih =>
    obtain ⟨first, proper⟩ := List.forall_mem_cons.mp proper
    obtain ⟨component, found, text⟩ := component_of_isStep first
    rw [List.filterMap_cons_some found, List.map_cons, text, ih proper]

theorem pieces_of_steps (proper : ∀ step ∈ steps, IsStep step) (some : steps ≠ []) (slash : Bool) :
    Text.pieces '/' (['/'].intercalate steps ++ (if slash then ['/'] else [])) =
      steps ++ (if slash then [[]] else []) := by
  have free : ∀ step ∈ steps, '/' ∉ step := fun step member => (proper step member).whole
  rw [Text.pieces_eq_splitOn]
  cases slash with
  | false => simpa using List.splitOn_intercalate '/' free some
  | true =>
    have freeToo : ∀ step ∈ steps ++ [[]], '/' ∉ step := List.forall_mem_append.mpr ⟨free, by simp⟩
    have closed : ['/'].intercalate steps ++ ['/'] = ['/'].intercalate (steps ++ [[]]) := by
      rw [intercalate_concat, if_neg some]
    rw [if_pos rfl, if_pos rfl, closed, List.splitOn_intercalate '/' freeToo (by simp)]

theorem bodyComponents_of_steps (proper : ∀ step ∈ steps, IsStep step) {slash : Bool}
    (some : slash = true → steps ≠ []) :
    bodyComponents (['/'].intercalate steps ++ (if slash then ['/'] else [])) =
      steps.filterMap componentOfPiece? := by
  by_cases none : steps = []
  · obtain rfl : slash = false := by simpa [none] using some
    simp [none, bodyComponents, Text.pieces, componentOfPiece?]
  · rw [bodyComponents, pieces_of_steps proper none, List.filterMap_append]
    cases slash <;> simp [componentOfPiece?]

theorem texts_of_body (proper : ∀ step ∈ steps, IsStep step) {slash : Bool} (some : slash = true → steps ≠ []) :
    (bodyComponents (['/'].intercalate steps ++ (if slash then ['/'] else []))).map (·.text.toList) = steps := by
  rw [bodyComponents_of_steps proper some, texts_of_steps proper]

theorem head?_steps (proper : ∀ step ∈ steps, IsStep step) {slash : Bool} (some : slash = true → steps ≠ []) :
    (['/'].intercalate steps ++ (if slash then ['/'] else [])).head? ≠ Option.some '/' := by
  cases steps with
  | nil =>
    cases slash with
    | false => simp
    | true => exact absurd rfl (some rfl)
  | cons step rest =>
    have first := proper step (List.mem_cons_self ..)
    cases rest with
    | nil => simpa only [List.intercalate_singleton] using first.head?_ne _
    | cons next more =>
      rw [List.intercalate_cons_cons, List.append_assoc, List.append_assoc]
      exact first.head?_ne _

theorem hasDoubleRoot_eq (text : path.text.toList = '/' :: (if double then ['/'] else []) ++ tail)
    (start : tail.head? ≠ some '/') : path.hasDoubleRoot = double := by
  rw [hasDoubleRoot, Bool.eq_iff_iff, Bool.and_eq_true, Bool.not_eq_true', String.startsWith_string_eq_false_iff,
    String.startsWith_string_iff, text]
  cases tail with
  | nil => cases double <;> simp
  | cons c rest =>
    have other : '/' ≠ c := Ne.symm (by simpa using start)
    cases double <;> simp [other]

theorem toList_withoutSlash_of_form (text : path.text.toList = '/' :: (if double then ['/'] else []) ++ tail)
    (start : tail.head? ≠ some '/') (directory : Path) :
    (path.withoutSlash directory).text.toList = rooted double ((bodyComponents tail).map (·.text.toList)) := by
  have once : path.isAbsolute = true := isAbsolute_iff.mpr (by simp [text])
  obtain ⟨rest, whole, -, written⟩ := toList_withoutSlash_of_isAbsolute once directory
  obtain rfl : (if double then ['/'] else []) ++ tail = rest := List.tail_eq_of_cons_eq (text.symm.trans whole)
  rw [written, hasDoubleRoot_eq text start]
  cases double with
  | false => rfl
  | true => exact congrArg (fun body => rooted true (body.map (·.text.toList))) (bodyComponents_slash tail)

theorem toList_injective {left right : Path} (same : left.text.toList = right.text.toList) : left = right := by
  cases left
  cases right
  exact congrArg mk (String.toList_injective same)

theorem Usual.absolute (usual : path.Usual) (directory : Path) : path.absolute directory = path := by
  obtain ⟨double, steps, slash, proper, some, text⟩ := usual
  have filled : path.isEmpty = false := by
    rw [isEmpty, String.isEmpty_eq_false_iff]
    rintro none
    simp [none, rooted] at text
  have written : (path.withoutSlash directory).text.toList = rooted double steps := by
    have form := text
    rw [rooted, List.append_assoc] at form
    rw [toList_withoutSlash_of_form form (head?_steps proper some), texts_of_body proper some]
  have joined : ((path.withoutSlash directory).join ⟨""⟩).text.toList = _ := toList_join (by simp) written proper
  have ends : path.text.endsWith "/" = true ↔ slash = true ∨ steps = [] := by
    rw [endsWith_slash, text]
    cases slash with
    | false => simpa using getLast?_rooted proper
    | true => simp
  refine toList_injective ?_
  rw [absolute_eq filled, text]
  by_cases none : steps = []
  · obtain rfl : slash = false := by simpa [none] using some
    rw [if_pos (ends.mpr (.inr none)), joined, if_pos none]
    rfl
  · cases slash with
    | false => rw [if_neg (by simp [ends, none]), written, if_neg Bool.false_ne_true, List.append_nil]
    | true =>
      rw [if_pos (ends.mpr (.inl rfl)), joined, if_neg none]
      rfl

theorem Usual.isAbsolute (usual : path.Usual) : path.isAbsolute = true := by
  obtain ⟨double, steps, slash, -, -, text⟩ := usual
  exact isAbsolute_iff.mpr (by simp [text, rooted])

theorem key_of_first {c : Char} {rest : List Char} (text : path.text.toList = c :: rest) (relative : c ≠ '/')
    (moves : c ≠ '.') : ∃ name more, path.key = .name name :: more := by
  obtain ⟨first, others, split⟩ : ∃ first others, Text.pieces '/' (c :: rest) = (c :: first) :: others := by
    cases later : Text.pieces '/' rest with
    | nil => exact absurd later (Text.pieces_ne_nil '/' rest)
    | cons first others => exact ⟨first, others, by rw [Text.pieces, if_neg relative, later]⟩
  have named : componentOfPiece? (c :: first) = some (.name (String.ofList (c :: first))) := by
    simp [componentOfPiece?, moves]
  refine ⟨String.ofList (c :: first), others.filterMap componentOfPiece?, ?_⟩
  rw [key, components, text, componentsOf.eq_2 _ (by simpa using relative), split]
  simp [named, moves]

theorem isAbsolute_join (rooted : base.isAbsolute = true) (path : Path) : (base.join path).isAbsolute = true := by
  obtain ⟨rest, text⟩ := List.head?_eq_some_iff.mp (isAbsolute_iff.mp rooted)
  unfold join
  split
  case isTrue absolute => exact absolute
  · split <;> simp [isAbsolute_iff, text]

theorem isAbsolute_append (rooted : base.isAbsolute = true) (components : List Component) :
    (append base components).isAbsolute = true := by
  induction components generalizing base with
  | nil => exact rooted
  | cons component rest ih => exact ih (isAbsolute_join rooted _)

theorem isAbsolute_absolute (rooted : directory.isAbsolute = true) (filled : path.isEmpty = false) :
    (path.absolute directory).isAbsolute = true := by
  have whole : (path.withoutSlash directory).isAbsolute = true := by
    unfold withoutSlash
    split
    · exact isAbsolute_append (isAbsolute_iff.mpr rfl) _
    · split
      case isTrue absolute =>
        obtain ⟨rest, -, parts⟩ := components_of_isAbsolute absolute
        rw [parts, append_root]
        exact isAbsolute_append (isAbsolute_iff.mpr rfl) _
      case isFalse => exact isAbsolute_append rooted _
  rw [absolute_eq filled]
  split
  · exact isAbsolute_join whole _
  · exact whole

end TagMenu.Path
