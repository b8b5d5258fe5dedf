import Mathlib
import TagMenu.Proofs.Path.Absolute

namespace TagMenu.Path

variable {path base directory left right : Path} {component : Component} {components : List Component}
  {piece : List Char} {pieces : List (List Char)} {marked : List (List Char × Bool)}

/-- The components of a path without its root and without full stops. -/
def parts (path : Path) : List Component := bodyComponents path.text.toList

theorem bodyComponents_append (before after : List Char) :
    bodyComponents (before ++ '/' :: after) = bodyComponents before ++ bodyComponents after := by
  rw [bodyComponents, Text.pieces_append, List.filterMap_append]
  rfl

theorem key_of_isAbsolute (absolute : path.isAbsolute = true) : path.key = .root :: path.parts := by
  obtain ⟨rest, text, components⟩ := components_of_isAbsolute absolute
  rw [key, components, parts, text, bodyComponents_slash]

theorem dropCurrent_of_relative (relative : ¬ path.isAbsolute = true) :
    dropCurrent path.components = path.parts := by
  have first : path.text.toList.head? ≠ some '/' := mt isAbsolute_iff.mpr relative
  rw [components, parts, bodyComponents]
  unfold componentsOf
  split
  · simp_all
  · split
    case h_1 rest start =>
      rw [start]
      rfl
    case h_2 =>
      unfold dropCurrent
      split
      case h_1 rest current =>
        -- No piece is read as a full stop.
        have inside : Component.current ∈ (Text.pieces '/' path.text.toList).filterMap componentOfPiece? := by
          rw [current]
          exact List.mem_cons_self ..
        obtain ⟨piece, -, found⟩ := List.mem_filterMap.mp inside
        unfold componentOfPiece? at found
        split_ifs at found <;> cases found
      case h_2 => rfl

theorem parts_join (relative : ¬ path.isAbsolute = true) : (base.join path).parts = base.parts ++ path.parts := by
  rw [join, if_neg relative]
  by_cases none : base.text = ""
  · have nothing : base.parts = [] := by
      rw [parts, none]
      rfl
    rw [nothing, none]
    simp
  · have filled : base.text.isEmpty = false := String.isEmpty_eq_false_iff.mpr none
    rw [filled, Bool.false_or]
    by_cases ends : base.text.endsWith "/" = true
    · obtain ⟨before, text⟩ := List.getLast?_eq_some_iff.mp ((endsWith_slash base.text).mp ends)
      have once : bodyComponents (before ++ ['/']) = bodyComponents before := by
        rw [bodyComponents_append]
        exact List.append_nil _
      rw [if_pos ends, parts, parts, String.toList_append, text, once, List.append_assoc, List.singleton_append,
        bodyComponents_append]
      rfl
    · rw [if_neg ends, parts, String.toList_append, String.toList_append, List.append_assoc]
      exact bodyComponents_append _ _

theorem join_of_isAbsolute (absolute : path.isAbsolute = true) (base : Path) : base.join path = path :=
  if_pos absolute

theorem parts_of_component (whole : '/' ∉ piece) (found : componentOfPiece? piece = some component) :
    (⟨component.text⟩ : Path).parts = [component] := by
  rw [parts, text_of_component found, bodyComponents, Text.pieces_free '/' whole, List.filterMap_cons_some found]
  rfl

theorem parts_append (read : ∀ component ∈ components, ∃ piece, '/' ∉ piece ∧ componentOfPiece? piece = some component)
    (base : Path) : (append base components).parts = base.parts ++ components := by
  unfold append
  induction components generalizing base with
  | nil => simp
  | cons component rest ih =>
    obtain ⟨⟨piece, whole, found⟩, read⟩ := List.forall_mem_cons.mp read
    have step := isStep_of_component whole found
    have relative : ¬ (⟨component.text⟩ : Path).isAbsolute = true := by
      rw [isAbsolute_iff]
      simpa using step.head?_ne []
    rw [List.foldl_cons, ih read, parts_join relative, parts_of_component whole found, List.append_assoc]
    rfl

theorem read_parts (path : Path) :
    ∀ component ∈ path.parts, ∃ piece, '/' ∉ piece ∧ componentOfPiece? piece = some component := by
  intro component inside
  obtain ⟨piece, listed, found⟩ := List.mem_filterMap.mp inside
  exact ⟨piece, Text.not_mem_pieces '/' _ piece listed, found⟩

theorem absolute_of_isEmpty (empty : path.isEmpty = true) (directory : Path) : path.absolute directory = path := by
  rw [absolute, absolute?, if_pos empty]
  rfl

theorem parts_absolute (filled : path.isEmpty = false) (directory : Path) :
    (path.absolute directory).parts = (directory.join path).parts := by
  have whole : (path.withoutSlash directory).parts = (directory.join path).parts := by
    unfold withoutSlash
    by_cases absolute : path.isAbsolute = true
    · have components : path.components = .root :: path.parts := key_of_isAbsolute absolute
      rw [join_of_isAbsolute absolute, if_pos absolute, components, append_root, List.drop_one, List.tail_cons]
      split
      · rw [parts_append (read_parts path)]
        rfl
      · rw [parts_append (read_parts path)]
        rfl
    · have single : ¬ path.hasDoubleRoot = true := mt isAbsolute_of_hasDoubleRoot absolute
      rw [if_neg single, if_neg absolute, dropCurrent_of_relative absolute, parts_append (read_parts path),
        parts_join absolute]
  rw [absolute_eq filled, ← whole]
  split
  · rw [parts_join (by decide)]
    exact List.append_nil _
  · rfl

def steps (path : Path) : List (List Char) :=
  (path.text.toList.splitOn '/').filter fun piece => piece ≠ [] ∧ piece ≠ ['.']

theorem steps_eq (path : Path) : path.steps = path.parts.map (·.text.toList) := by
  rw [steps, parts, bodyComponents, Text.pieces_eq_splitOn]
  induction path.text.toList.splitOn '/' with
  | nil => rfl
  | cons piece rest ih =>
    by_cases stays : piece = [] ∨ piece = ['.']
    · have left : ¬ (piece ≠ [] ∧ piece ≠ ['.']) := by simpa [or_iff_not_imp_left] using stays
      have none : componentOfPiece? piece = none := if_pos stays
      rw [List.filter_cons_of_neg (by simpa using left), List.filterMap_cons_none none, ih]
    · have kept : piece ≠ [] ∧ piece ≠ ['.'] := not_or.mp stays
      obtain ⟨component, found⟩ : ∃ component, componentOfPiece? piece = some component := by
        rw [componentOfPiece?, if_neg stays]
        split <;> exact ⟨_, rfl⟩
      rw [List.filter_cons_of_pos (by simpa using kept), List.filterMap_cons_some found, List.map_cons, ih,
        text_of_component found]

theorem parts_of_steps (path : Path) : path.steps.filterMap componentOfPiece? = path.parts := by
  rw [steps_eq, List.filterMap_map]
  have read : ∀ component ∈ path.parts, (componentOfPiece? ∘ (·.text.toList)) component = some component := by
    intro component inside
    obtain ⟨piece, -, found⟩ := read_parts path component inside
    rw [Function.comp_apply, text_of_component found, found]
  rw [List.filterMap_congr read, List.filterMap_some]

theorem parts_eq_iff : left.parts = right.parts ↔ left.steps = right.steps := by
  constructor
  · intro same
    rw [steps_eq, steps_eq, same]
  · intro same
    rw [← parts_of_steps left, ← parts_of_steps right, same]

theorem key_absolute_eq_iff (rooted : directory.isAbsolute = true) (filledLeft : left.isEmpty = false)
    (filledRight : right.isEmpty = false) : (left.absolute directory).key = (right.absolute directory).key ↔
      (directory.join left).steps = (directory.join right).steps := by
  have keyLeft := key_of_isAbsolute (isAbsolute_absolute rooted filledLeft)
  have keyRight := key_of_isAbsolute (isAbsolute_absolute rooted filledRight)
  rw [keyLeft, keyRight, List.cons.injEq, parts_absolute filledLeft, parts_absolute filledRight, parts_eq_iff]
  simp

theorem Usual.join (usual : base.Usual) (step : IsStep path.text.toList) : (base.join path).Usual := by
  obtain ⟨double, names, slash, proper, some, text⟩ := usual
  have relative : path.text.toList.head? ≠ Option.some '/' := by simpa using step.head?_ne []
  have more : ∀ name ∈ names ++ [path.text.toList], IsStep name :=
    List.forall_mem_append.mpr ⟨proper, by simpa using step⟩
  refine ⟨double, names ++ [path.text.toList], false, more, nofun, ?_⟩
  rw [if_neg Bool.false_ne_true, List.append_nil, rooted_concat]
  cases slash with
  | false => exact toList_join relative (by simpa using text) proper
  | true =>
    have ends : base.text.endsWith "/" = true := (endsWith_slash base.text).mpr (by simp [text])
    rw [Path.join, if_neg (mt isAbsolute_iff.mp relative), ends, Bool.or_true, if_pos rfl, if_neg (some rfl),
      String.toList_append, text]
    simp

theorem Usual.append (usual : base.Usual) (proper : ∀ component ∈ components, IsStep component.text.toList) :
    (append base components).Usual := by
  induction components generalizing base with
  | nil => exact usual
  | cons component rest ih =>
    obtain ⟨step, proper⟩ := List.forall_mem_cons.mp proper
    exact ih (usual.join step) proper

theorem Usual.slashed (usual : base.Usual) : (base.join ⟨""⟩).Usual := by
  have form := usual
  obtain ⟨double, names, slash, proper, some, text⟩ := form
  cases slash with
  | false => exact usual_of_written (by simpa using text) proper true
  | true =>
    have ends : base.text.endsWith "/" = true := (endsWith_slash base.text).mpr (by simp [text])
    have same : base.join ⟨""⟩ = base := by
      rw [Path.join, if_neg (by decide), ends, Bool.or_true, if_pos rfl, String.append_empty]
    rwa [same]

theorem Usual.of_absolute (usual : directory.Usual) (filled : path.isEmpty = false) :
    (path.absolute directory).Usual := by
  have whole : (path.withoutSlash directory).Usual := by
    by_cases absolute : path.isAbsolute = true
    · obtain ⟨rest, -, -, written⟩ := toList_withoutSlash_of_isAbsolute absolute directory
      exact usual_of_written written (steps_of_components fun _ => isStep_of_body) false
    · rw [withoutSlash, if_neg (mt isAbsolute_of_hasDoubleRoot absolute), if_neg absolute]
      exact usual.append fun _ => isStep_of_relative (mt isAbsolute_iff.mpr absolute)
  rw [absolute_eq filled]
  split
  · exact whole.slashed
  · exact whole

theorem cutLast?_cases (marked : List (List Char × Bool)) :
    (cutLast? marked = none ∧ ∀ mark ∈ marked, mark.2 = false) ∨
      ∃ before last after, marked = before ++ (last, true) :: after ∧ (∀ mark ∈ after, mark.2 = false) ∧
        cutLast? marked = some (before.reverse, last) := by
  unfold cutLast?
  cases rest : marked.reverse.dropWhile (!·.2) with
  | nil =>
    have all := List.dropWhile_eq_nil_iff.mp rest
    exact .inl ⟨rfl, fun mark inside => by simpa using all mark (List.mem_reverse.mpr inside)⟩
  | cons mark before =>
    have first := List.head?_dropWhile_not (p := fun mark : List Char × Bool => !mark.2) marked.reverse
    have skipped := List.takeWhile_append_dropWhile (p := fun mark : List Char × Bool => !mark.2) (l := marked.reverse)
    rw [rest] at first skipped
    obtain ⟨last, counts⟩ := mark
    obtain rfl : counts = true := by simpa using first
    refine .inr ⟨before.reverse, last, (marked.reverse.takeWhile (!·.2)).reverse, ?_, ?_, by simp⟩
    · have whole := congrArg List.reverse skipped
      simpa using whole.symm
    · intro mark inside
      simpa using List.mem_takeWhile_imp (List.mem_reverse.mp inside)

/-- Pieces of a text with whether they count as components. What does not count is no component; what counts is one,
    but for a full stop at the start. -/
structure Marks (marked : List (List Char × Bool)) : Prop where
  whole : ∀ mark ∈ marked, '/' ∉ mark.1
  none : ∀ mark ∈ marked, mark.2 = false → componentOfPiece? mark.1 = none
  some : ∀ mark ∈ marked.tail, mark.2 = true → (componentOfPiece? mark.1).isSome = true

/-- The components among marked pieces. -/
def read (marked : List (List Char × Bool)) : List Component := marked.filterMap (componentOfPiece? ·.1)

theorem marks_pieces (whole : ∀ piece ∈ pieces, '/' ∉ piece) :
    Marks (pieces.map fun piece => (piece, (componentOfPiece? piece).isSome)) where
  whole := List.forall_mem_map.mpr whole
  none := List.forall_mem_map.mpr fun piece _ uncounted => by simpa using uncounted
  some mark inside := by
    obtain ⟨piece, -, rfl⟩ := List.mem_map.mp (List.mem_of_mem_tail inside)
    exact id

theorem marks_cons {first : List Char} (whole : ∀ piece ∈ first :: pieces, '/' ∉ piece) :
    Marks ((first, !first.isEmpty) :: pieces.map fun piece => (piece, (componentOfPiece? piece).isSome)) := by
  obtain ⟨free, whole⟩ := List.forall_mem_cons.mp whole
  have rest := marks_pieces whole
  refine ⟨List.forall_mem_cons.mpr ⟨free, rest.whole⟩, List.forall_mem_cons.mpr ⟨fun uncounted => ?_, rest.none⟩, ?_⟩
  · have empty : first = [] := by simpa using uncounted
    exact if_pos (.inl empty)
  · refine List.forall_mem_map.mpr fun piece _ => id

theorem read_marked (pieces : List (List Char)) :
    read (pieces.map fun piece => (piece, (componentOfPiece? piece).isSome)) =
      pieces.filterMap componentOfPiece? := by
  simp [read, List.filterMap_map]

theorem pieces_of_relative {c : Char} (relative : c ≠ '/') (rest : List Char) :
    ∃ first others, Text.pieces '/' (c :: rest) = (c :: first) :: others := by
  cases later : Text.pieces '/' rest with
  | nil => exact absurd later (Text.pieces_ne_nil '/' rest)
  | cons first others => exact ⟨first, others, by rw [Text.pieces, if_neg relative, later]⟩

/-- The pieces of a path and their marks. The first piece of a relative path is empty only if the path is. -/
theorem marks_of_path (path : Path) : ∃ marked,
    markedPieces path.text.toList = (if path.isAbsolute then ['/'] else [], marked) ∧ Marks marked ∧
      path.parts = read marked ∧
        (¬ path.isAbsolute = true → ∀ mark ∈ marked.head?, mark.1 = [] → mark.2 = false ∧ marked = [mark]) := by
  by_cases absolute : path.isAbsolute = true
  · obtain ⟨rest, text, -⟩ := components_of_isAbsolute absolute
    rw [parts, text, bodyComponents_slash, if_pos absolute]
    exact ⟨_, rfl, marks_pieces (Text.not_mem_pieces '/' rest), (read_marked _).symm, absurd absolute⟩
  · have start : path.text.toList.head? ≠ some '/' := mt isAbsolute_iff.mpr absolute
    obtain ⟨first, others, cut⟩ : ∃ first others, Text.pieces '/' path.text.toList = first :: others :=
      List.exists_cons_of_ne_nil (Text.pieces_ne_nil '/' _)
    have whole := Text.not_mem_pieces '/' path.text.toList
    have marked : markedPieces path.text.toList =
        ([], (first, !first.isEmpty) :: others.map fun piece => (piece, (componentOfPiece? piece).isSome)) := by
      unfold markedPieces
      dsimp only
      split
      · simp_all
      · rw [cut]
    have empty : first = [] → others = [] := by
      rintro rfl
      cases text : path.text.toList with
      | nil => simpa [text, Text.pieces] using cut
      | cons c rest =>
        have notSlash : c ≠ '/' := by simpa [text] using start
        obtain ⟨more, later, other⟩ := pieces_of_relative notSlash rest
        rw [text, other] at cut
        cases cut
    rw [cut] at whole
    rw [marked, if_neg absolute]
    refine ⟨_, rfl, marks_cons whole, ?_, fun _ => ?_⟩
    · rw [parts, bodyComponents, cut, read, List.filterMap_cons, List.filterMap_cons, ← read, read_marked]
    · rintro mark found none
      obtain rfl : (first, !first.isEmpty) = mark := by simpa using found
      obtain rfl : first = [] := none
      rw [empty rfl]
      exact ⟨rfl, rfl⟩

theorem read_dropWhile (none : ∀ mark ∈ marked, mark.2 = false → componentOfPiece? mark.1 = none) :
    read (marked.dropWhile (!·.2)) = read marked := by
  induction marked with
  | nil => rfl
  | cons mark rest ih =>
    obtain ⟨first, none⟩ := List.forall_mem_cons.mp none
    by_cases counts : mark.2 = true
    · rw [List.dropWhile_cons_of_neg (by simp [counts])]
    · have left : mark.2 = false := Bool.eq_false_iff.mpr counts
      have same : read (mark :: rest) = read rest := List.filterMap_cons_none (first left)
      rw [List.dropWhile_cons_of_pos (by simp [left]), ih none, same]

theorem bodyComponents_intercalate (whole : ∀ piece ∈ pieces, '/' ∉ piece) :
    bodyComponents (['/'].intercalate pieces) = pieces.filterMap componentOfPiece? := by
  by_cases none : pieces = []
  · rw [none]
    rfl
  · rw [bodyComponents, Text.pieces_eq_splitOn, List.splitOn_intercalate '/' whole none]

theorem head?_intercalate {first : List Char} (filled : first ≠ []) (whole : '/' ∉ first) :
    (['/'].intercalate (first :: pieces)).head? ≠ some '/' := by
  obtain ⟨c, rest, rfl⟩ := List.exists_cons_of_ne_nil filled
  have other : '/' ≠ c := (List.ne_and_not_mem_of_not_mem_cons whole).1
  cases pieces with
  | nil => simpa using other.symm
  | cons next more => simpa [List.intercalate_cons_cons] using other.symm

def front (before : List (List Char × Bool)) : List (List Char) :=
  (before.reverse.dropWhile (!·.2)).reverse.map (·.1)

theorem front_isPrefix (before : List (List Char × Bool)) : front before <+: before.map (·.1) :=
  (List.rdropWhile_prefix (fun mark : List Char × Bool => !mark.2) before).map _

theorem read_front {before : List (List Char × Bool)}
    (none : ∀ mark ∈ before, mark.2 = false → componentOfPiece? mark.1 = none) :
    (front before).filterMap componentOfPiece? = read before := by
  have uncounted : ∀ mark ∈ before.reverse, mark.2 = false → componentOfPiece? mark.1 = Option.none := by
    simpa using none
  have back := read_dropWhile uncounted
  rw [front, List.filterMap_map, List.filterMap_reverse]
  exact (congrArg List.reverse back).trans (by rw [read, List.filterMap_reverse, List.reverse_reverse]; rfl)

theorem parent?_of_cut {root : List Char} {before : List (List Char × Bool)}
    (split : markedPieces path.text.toList = (root, marked)) (cut : cutLast? marked = some (before.reverse, piece)) :
    path.parent? = some ⟨String.ofList (root ++ ['/'].intercalate (front before))⟩ := by
  unfold parent?
  rw [split]
  dsimp only
  rw [cut]
  rfl

/-- A path without parts is in no directory. Any other is in one that has all parts but the last, and starts from
    where the path does. -/
theorem parent?_cases (path : Path) : (path.parent? = none ∧ path.parts = []) ∨
    ∃ base, path.parent? = some base ∧ base.parts = path.parts.dropLast ∧ base.isAbsolute = path.isAbsolute := by
  obtain ⟨marked, split, marks, parts, relative⟩ := marks_of_path path
  obtain ⟨none, left⟩ | ⟨before, last, after, rfl, left, found⟩ := cutLast?_cases marked
  · refine .inl ⟨?_, ?_⟩
    · unfold parent?
      rw [split]
      dsimp only
      rw [none]
      rfl
    · rw [parts, read, List.filterMap_eq_nil_iff]
      exact fun mark inside => marks.none mark inside (left mark inside)
  · have uncounted := (List.forall_mem_append.mp marks.none).1
    have pieces : ∀ piece ∈ front before, '/' ∉ piece := by
      intro piece inside
      obtain ⟨mark, listed, rfl⟩ := List.mem_map.mp ((front_isPrefix before).subset inside)
      exact marks.whole mark (List.mem_append_left _ listed)
    have behind : read after = [] := by
      rw [read, List.filterMap_eq_nil_iff]
      exact fun mark inside => marks.none mark (by simp [inside]) (left mark inside)
    refine .inr ⟨_, parent?_of_cut split found, ?_, ?_⟩
    · have base : (⟨String.ofList ((if path.isAbsolute then ['/'] else []) ++ ['/'].intercalate (front before))⟩ :
          Path).parts = read before := by
        rw [← read_front uncounted, ← bodyComponents_intercalate pieces, Path.parts, String.toList_ofList]
        split
        · exact bodyComponents_slash _
        · rfl
      have whole : read (before ++ (last, true) :: after) = read before ++ read ((last, true) :: after) :=
        List.filterMap_append
      have one : read ((last, true) :: after) = (componentOfPiece? last).toList := by
        rw [read] at behind ⊢
        rw [List.filterMap_cons, behind]
        cases componentOfPiece? last <;> rfl
      rw [base, parts, whole, one]
      cases component : componentOfPiece? last with
      | some component => simp
      | none =>
        -- Only a full stop at the start counts and is no component.
        cases before with
        | nil => rfl
        | cons first rest =>
          have later := marks.some (last, true) (by simp) rfl
          simp [component] at later
    · rw [Bool.eq_iff_iff, isAbsolute_iff, String.toList_ofList]
      by_cases absolute : path.isAbsolute = true
      · simp [absolute]
      · rw [if_neg absolute, List.nil_append]
        refine iff_of_false ?_ absolute
        cases kept : front before with
        | nil => simp
        | cons first rest =>
          rw [kept] at pieces
          refine head?_intercalate ?_ (pieces first (List.mem_cons_self ..))
          rintro rfl
          obtain ⟨more, whole⟩ := front_isPrefix before
          rw [kept] at whole
          cases before with
          | nil => simp at whole
          | cons mark others =>
            have empty : mark.1 = [] := by simpa using (List.cons.inj whole).1.symm
            have alone := (relative absolute mark rfl empty).2
            simp at alone

end TagMenu.Path
