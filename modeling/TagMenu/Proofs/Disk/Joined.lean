import Mathlib
import TagMenu.Disk.Volume
import TagMenu.Proofs.Disk.Absolute

namespace TagMenu.Disk

variable {root child : Node} {here place : Place} {path base : Path} {name : String} {links : Nat}
  {steps more : List Step} {entries : List (FileName × Node)} {modified : Timestamp} {chars : List Char}

theorem walk_append (walked : walk root true links here steps = .ok (.found place (.directory entries modified)))
    (more : List Step) : ∃ left, walk root true links here (steps ++ more) = walk root true left place more := by
  -- On the walk: a link puts its own steps in front of those that are left.
  fun_induction walk root true links here steps with
  | case1 links here node found =>
    obtain ⟨rfl, -⟩ := by simpa using walked
    exact ⟨links, rfl⟩
  | case3 links here rest ih =>
    obtain ⟨left, same⟩ := ih walked
    exact ⟨left, by rw [List.cons_append, walk, same]⟩
  | case4 links here rest ih =>
    obtain ⟨left, same⟩ := ih walked
    exact ⟨left, by rw [List.cons_append, walk, same]⟩
  | case9 links here name rest place short content time there => simp at walked
  | case11 links here name rest place short inner time there ih =>
    obtain ⟨left, same⟩ := ih walked
    refine ⟨left, ?_⟩
    rw [List.cons_append, walk, if_neg short]
    simp only [there, place]
    exact same
  | case12 links here name rest place short target there stop => simp at stop
  | case14 here name rest place short target there inside links start first leads ih =>
    obtain ⟨left, same⟩ := ih walked
    refine ⟨left, ?_⟩
    rw [List.cons_append, walk, if_neg short]
    simp only [there, place, leads, Bool.not_true, Bool.false_eq_true, and_false, if_false]
    rw [← List.append_assoc]
    exact same
  | _ => cases walked

theorem stepsOf_append (chars more : List Char) : stepsOf (chars ++ '/' :: more) = stepsOf chars ++ stepsOf more := by
  rw [stepsOf, Text.pieces_append, List.map_append]
  rfl

theorem itinerary_of_relative (here : Place) {text : String} (relative : text.toList.head? ≠ some '/') :
    itinerary here text = (here, stepsOf text.toList) := by
  unfold itinerary
  split
  case h_1 rest root => simp [root] at relative
  case h_2 => rfl

theorem itinerary_append (here : Place) (filled : chars ≠ []) (more : List Char) :
    itinerary here (String.ofList (chars ++ '/' :: more)) =
      ((itinerary here (String.ofList chars)).1, (itinerary here (String.ofList chars)).2 ++ stepsOf more) := by
  obtain ⟨c, rest, rfl⟩ := List.exists_cons_of_ne_nil filled
  by_cases root : c = '/'
  · subst root
    unfold itinerary
    rw [String.toList_ofList, String.toList_ofList]
    exact congrArg (Prod.mk []) (stepsOf_append rest more)
  · rw [itinerary_of_relative here (by simpa using root), itinerary_of_relative here (by simpa using root),
      String.toList_ofList, String.toList_ofList, stepsOf_append]

/-- A path that is joined to another takes the steps of that first, but perhaps not the one for a slash at its end. -/
theorem itinerary_join (here : Place) (filled : base.isEmpty = false) (relative : path.text.toList.head? ≠ some '/') :
    ∃ steps, itinerary here (base.join path).text =
        ((itinerary here base.text).1, steps ++ stepsOf path.text.toList) ∧
      Fewer steps (itinerary here base.text).2 := by
  have text : base.text = String.ofList base.text.toList := String.ofList_toList.symm
  rw [Path.join, if_neg (mt Path.isAbsolute_iff.mp relative)]
  have some : base.text.isEmpty = false := filled
  rw [some, Bool.false_or]
  by_cases ends : base.text.endsWith "/" = true
  · obtain ⟨before, split⟩ := List.getLast?_eq_some_iff.mp ((Path.endsWith_slash base.text).mp ends)
    rw [if_pos ends]
    rw [split] at text
    have whole : base.text ++ path.text = String.ofList (before ++ '/' :: path.text.toList) := by
      refine String.toList_injective ?_
      rw [String.toList_append, split, String.toList_ofList, List.append_assoc, List.singleton_append]
    rw [whole]
    cases before with
    | nil =>
      have root : itinerary here base.text = ([], [.stay]) := by
        rw [text]
        rfl
      rw [root]
      exact ⟨[], by rw [itinerary, String.toList_ofList]; rfl, .drop .done⟩
    | cons c rest =>
      rw [itinerary_append here (List.cons_ne_nil c rest), text, itinerary_append here (List.cons_ne_nil c rest)]
      have slash : stepsOf [] = [.stay] := rfl
      rw [slash]
      exact ⟨_, rfl, by simpa using Fewer.append (itinerary here (String.ofList (c :: rest))).2 (.drop .done)⟩
  · rw [if_neg ends]
    have whole : base.text ++ "/" ++ path.text = String.ofList (base.text.toList ++ '/' :: path.text.toList) := by
      refine String.toList_injective ?_
      simp
    have chars : base.text.toList ≠ [] := mt String.toList_eq_nil_iff.mp (String.isEmpty_eq_false_iff.mp some)
    rw [whole, itinerary_append here chars, ← text]
    exact ⟨_, rfl, by simpa [moves] using Fewer.append (itinerary here base.text).2 .done⟩

theorem noNul_join (baseToo : '\x00' ∉ base.text.toList) (noNul : '\x00' ∉ path.text.toList) :
    (base.join path).text.contains '\x00' = false := by
  rw [String.contains_char_eq, decide_eq_false_iff_not]
  unfold Path.join
  split
  · exact noNul
  · split <;> simp [baseToo, noNul]

theorem isEmpty_join (filled : path.text ≠ "") (base : Path) : (base.join path).isEmpty = false := by
  rw [Path.isEmpty, String.isEmpty_eq_false_iff]
  unfold Path.join
  split
  · exact filled
  · split <;> simp [filled]

theorem find_join (found : find root here true base = .ok (place, .directory entries modified)) (own : IsFileName name)
    (listed : entries.lookup (.ofText name) = some child) (noLink : ∀ target, child ≠ .link target)
    (short : (base.join ⟨name⟩).text.utf8ByteSize ≤ pathLimit) :
    find root here true (base.join ⟨name⟩) = .ok (place ++ [name], child) := by
  obtain ⟨filled, noNul⟩ := readable_of_find found
  have step : Path.IsStep name.toList := Path.isStep_of_name own
  have relative : name.toList.head? ≠ some '/' := by simpa using step.head?_ne []
  obtain ⟨steps, way, fewer⟩ :=
    itinerary_join here filled (show (⟨name⟩ : Path).text.toList.head? ≠ some '/' from relative)
  have one : stepsOf name.toList = [.enter name] := by
    rw [Path.stepsOf_eq, Text.pieces_free '/' own.whole]
    exact Path.steps_of_names (List.forall_mem_singleton.mpr own)
  obtain ⟨left, onward⟩ := walk_append (walk_fewer (find_walks found) fewer) [.enter name]
  have there : root.get? (place ++ [name]) = some child := by
    rw [Node.get?_of_directory (find_get? found), listed]
    rfl
  have inside : walk root true left place ([name].map .enter) = .ok (.found (place ++ [name]) child) :=
    walk_names (by simpa using own.short) there noLink
  refine find_of_walk (noNul_join noNul own.noNul) (isEmpty_join own.filled base) short ?_
  rw [way, one, onward]
  exact inside

theorem endsWith_join (own : IsFileName name) (base : Path) : (base.join ⟨name⟩).text.endsWith "/" = false := by
  have relative : ¬ (⟨name⟩ : Path).isAbsolute = true := fun absolute =>
    own.whole (List.mem_of_mem_head? (Path.isAbsolute_iff.mp absolute))
  have last (before : List Char) : (before ++ name.toList).getLast? ≠ some '/' := by
    rw [List.getLast?_append_of_ne_nil _ (mt String.toList_eq_nil_iff.mp own.filled)]
    exact fun slash => own.whole (List.mem_of_getLast? slash)
  rw [Bool.eq_false_iff, ne_eq, Path.endsWith_slash, Path.join, if_neg relative]
  split <;> simp only [String.toList_append] <;> exact last _

namespace Volume

variable {volume : Volume}

theorem sizeBelow_eq (path : Path) (names : List FileName) :
    sizeBelow path names = path.text.utf8ByteSize + (names.map (·.octets.length + 1)).sum -
      (if path.text.endsWith "/" && !names.isEmpty then 1 else 0) := by
  rw [sizeBelow, List.sum_eq_foldr, List.foldr_map]

theorem sizeBelow_append_le (path : Path) (names more : List FileName) :
    sizeBelow path names ≤ sizeBelow path (names ++ more) := by
  rw [sizeBelow_eq, sizeBelow_eq]
  cases names <;> cases more <;> simp <;> split <;> omega

theorem sizeBelow_join (filled : path.isEmpty = false) (own : IsFileName name) (names : List FileName) :
    sizeBelow path (.ofText name :: names) = sizeBelow (path.join ⟨name⟩) names := by
  have relative : ¬ (⟨name⟩ : Path).isAbsolute = true := fun absolute =>
    own.whole (List.mem_of_mem_head? (Path.isAbsolute_iff.mp absolute))
  have some : path.text.isEmpty = false := filled
  have slash : "/".utf8ByteSize = 1 := rfl
  rw [sizeBelow_eq, sizeBelow_eq, endsWith_join own, Path.join, if_neg relative, some, Bool.false_or, List.map_cons,
    List.sum_cons, FileName.length_ofText]
  by_cases ends : path.text.endsWith "/" <;> simp [ends, String.utf8ByteSize_append, slash] <;> omega

/-- It makes no difference whether the first name is put behind the path or stands before the other names. -/
theorem entries_join (found : volume.find true path = .ok (place, .directory entries modified))
    (own : IsFileName name) (listed : entries.lookup (.ofText name) = some child)
    (noLink : ∀ target, child ≠ .link target) (names : List FileName) :
    volume.entries path (.ofText name :: names) = volume.entries (path.join ⟨name⟩) names := by
  have below : (Node.directory entries modified).below? (.ofText name :: names) = child.below? names := by
    rw [Node.below?, listed]
    rfl
  have size := sizeBelow_join (readable_of_find found).1 own names
  by_cases short : (path.join ⟨name⟩).text.utf8ByteSize ≤ pathLimit
  · have onward : volume.find true (path.join ⟨name⟩) = .ok (place ++ [name], child) :=
      find_join found own listed noLink short
    simp only [Volume.entries, found, onward, below, size]
  · obtain ⟨failure, nothing⟩ : ∃ failure, volume.find true (path.join ⟨name⟩) = .error failure :=
      find_of_long (Nat.not_le.mp short)
    have long : sizeBelow (path.join ⟨name⟩) names > pathLimit := by
      have own : sizeBelow (path.join ⟨name⟩) [] = (path.join ⟨name⟩).text.utf8ByteSize := by simp [sizeBelow]
      exact Nat.lt_of_lt_of_le (own ▸ Nat.not_le.mp short) (sizeBelow_append_le _ [] names)
    simp only [Volume.entries, found, nothing, size, if_pos long]

end Volume

end TagMenu.Disk
