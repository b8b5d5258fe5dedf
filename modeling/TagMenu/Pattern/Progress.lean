import TagMenu.Pattern.Reader

namespace TagMenu.Pattern

theorem dropTrivia_suffix (inComment : Bool) (chars : List Char) :
    dropTrivia inComment chars <:+ chars := by
  fun_induction dropTrivia inComment chars with
  | case1 => exact List.suffix_refl _
  | case2 _ _ ih => exact ih.trans (List.suffix_cons ..)
  | case3 _ _ _ _ _ ih => exact ih.trans (List.suffix_cons ..)
  | case4 _ _ _ _ ih => exact ih.trans (List.suffix_cons ..)
  | case5 => exact List.suffix_refl _

theorem skip_suffix (extended : Bool) (chars : List Char) : skip extended chars <:+ chars := by
  unfold skip
  split
  · exact dropTrivia_suffix ..
  · exact List.suffix_refl _

theorem spanVisible_suffix (extended : Bool) (keep : Char → Bool) (inComment : Bool)
    (chars : List Char) : (spanVisible extended keep inComment chars).2 <:+ chars := by
  fun_induction spanVisible extended keep inComment chars with
  | case1 => exact List.suffix_refl _
  | case2 _ _ ih => exact ih.trans (List.suffix_cons ..)
  | case3 _ _ _ _ _ ih => exact ih.trans (List.suffix_cons ..)
  | case4 _ _ _ _ _ _ ih => exact ih.trans (List.suffix_cons ..)
  | case5 _ _ _ _ _ _ _ run rest eq ih =>
    rw [eq] at ih
    exact ih.trans (List.suffix_cons ..)
  | case6 => exact List.suffix_refl _

theorem ok_of_bind {ε α β : Type} {first : Except ε α} {next : α → Except ε β} {b : β}
    (h : first >>= next = .ok b) : ∃ a, first = .ok a ∧ next a = .ok b := by
  cases first with
  | error => cases h
  | ok a => exact ⟨a, rfl, h⟩

variable {extended : Bool} {chars rest : List Char}

theorem readCount_suffix {count : Nat} (h : readCount extended chars = .ok (count, rest)) :
    rest <:+ chars := by
  unfold readCount at h
  dsimp only at h
  split at h
  · cases h
  · split at h
    · cases h
      exact (List.dropWhile_suffix _).trans
        ((spanVisible_suffix ..).trans (List.dropWhile_suffix _))
    · cases h

theorem readBounds_suffix {bounds : Nat × Option Nat}
    (h : readBounds extended chars = .ok (bounds, rest)) : rest <:+ chars := by
  unfold readBounds at h
  obtain ⟨⟨min, after⟩, count, h⟩ := ok_of_bind h
  have start := (readCount_suffix count).trans (skip_suffix ..)
  refine List.IsSuffix.trans ?_ start
  dsimp only at h
  split at h
  · cases h
    exact List.suffix_cons ..
  · rename_i comma
    split at h
    · rename_i brace
      cases h
      have := skip_suffix extended comma
      rw [brace] at this
      exact (List.suffix_cons ..).trans (this.trans (List.suffix_cons ..))
    · obtain ⟨⟨max, after⟩, count, h⟩ := ok_of_bind h
      have next : after <:+ ',' :: comma := (readCount_suffix count).trans
        ((skip_suffix extended comma).trans (List.suffix_cons ..))
      dsimp only at h
      split at h
      · split at h
        · cases h
          exact (List.suffix_cons ..).trans next
        · cases h
      · cases h
  · cases h

theorem readDigits_suffix {count : Nat} {digits : List Nat}
    (h : readDigits extended count chars = .ok (digits, rest)) : rest <:+ chars := by
  induction count generalizing chars digits with
  | zero => cases h; exact List.suffix_refl _
  | succ count ih =>
    match chars with
    | [] => cases h
    | c :: after =>
      simp only [readDigits] at h
      split at h
      · cases h
      · obtain ⟨⟨more, final⟩, eq, h⟩ := ok_of_bind h
        cases h
        exact (ih eq).trans ((skip_suffix ..).trans (List.suffix_cons ..))

theorem readHex_suffix {count : Nat} {c : Char}
    (h : readHex extended count chars = .ok (c, rest)) : rest <:+ chars := by
  unfold readHex at h
  refine List.IsSuffix.trans ?_ (skip_suffix extended chars)
  split at h
  · rename_i after eq
    rw [eq]
    split at h
    · rename_i digits final span
      have := spanVisible_suffix extended (· != '\x7d') false after
      rw [span] at this
      split at h
      · cases h
      · cases h
      · obtain ⟨_, _, h⟩ := ok_of_bind h
        cases h
        exact (List.suffix_cons ..).trans (this.trans (List.suffix_cons ..))
    · cases h
  · obtain ⟨⟨digits, final⟩, eq, h⟩ := ok_of_bind h
    obtain ⟨_, _, h⟩ := ok_of_bind h
    cases h
    exact readDigits_suffix eq

theorem readPropertyText_suffix {text : List Char}
    (h : readPropertyText extended chars = .ok (text, rest)) : rest <:+ chars := by
  unfold readPropertyText at h
  refine List.IsSuffix.trans ?_ (skip_suffix extended chars)
  split at h
  · cases h
  · rename_i after eq
    rw [eq]
    split at h
    · rename_i text final span
      have := spanVisible_suffix extended (· != '\x7d') false after
      rw [span] at this
      cases h
      exact (List.suffix_cons ..).trans (this.trans (List.suffix_cons ..))
    · cases h
  · cases h
  · rename_i eq
    rw [eq]
    cases h
    exact List.suffix_cons ..

theorem readProperty_suffix {flags : Flags} {negated : Bool} {set : Charset}
    (h : readProperty flags negated chars = .ok (set, rest)) : rest <:+ chars := by
  unfold readProperty at h
  obtain ⟨⟨text, after⟩, eq, h⟩ := ok_of_bind h
  dsimp only at h
  split at h
  · cases h
  · split at h
    · cases h
    · obtain ⟨_, _, h⟩ := ok_of_bind h
      cases h
      exact readPropertyText_suffix eq

theorem readWordEdge_suffix {edge : WordEdge}
    (h : readWordEdge extended chars = .ok (edge, rest)) : rest <:+ chars := by
  unfold readWordEdge at h
  split at h
  · rename_i after
    split at h
    · cases h
    · rename_i first others eq
      split at h
      · split at h
        · rename_i name final span
          have := spanVisible_suffix extended isEdgeLetter false (first :: others)
          rw [span, ← eq] at this
          split at h
          · cases h
            exact (List.suffix_cons ..).trans
              (this.trans ((skip_suffix ..).trans (List.suffix_cons ..)))
          · cases h
        · cases h
      · cases h
        exact List.suffix_refl _
  · cases h
    exact List.suffix_refl _

theorem readEscape_suffix {flags : Flags} {atom : Atom}
    (h : readEscape flags chars = .ok (atom, rest)) : rest <:+ chars := by
  unfold readEscape at h
  split at h
  · cases h
  · rename_i c after
    refine List.IsSuffix.trans ?_ (List.suffix_cons c after)
    dsimp only at h
    split at h
    · obtain ⟨_, eq, h⟩ := ok_of_bind h
      cases h
      exact readHex_suffix eq
    · obtain ⟨_, eq, h⟩ := ok_of_bind h
      cases h
      exact readHex_suffix eq
    · obtain ⟨_, eq, h⟩ := ok_of_bind h
      cases h
      exact readHex_suffix eq
    · obtain ⟨_, eq, h⟩ := ok_of_bind h
      cases h
      exact readProperty_suffix eq
    · obtain ⟨_, eq, h⟩ := ok_of_bind h
      cases h
      exact readProperty_suffix eq
    · cases h; exact List.suffix_refl _
    · cases h; exact List.suffix_refl _
    · cases h; exact List.suffix_refl _
    · cases h; exact List.suffix_refl _
    · cases h; exact List.suffix_refl _
    · obtain ⟨_, eq, h⟩ := ok_of_bind h
      cases h
      exact readWordEdge_suffix eq
    · split at h
      · split at h
        · cases h
        · cases h; exact List.suffix_refl _
      · split at h
        · cases h; exact List.suffix_refl _
        · split at h
          · cases h
          · split at h
            · cases h; exact List.suffix_refl _
            · cases h

theorem FlagList.read_suffix {list final : FlagList} {last : Char}
    (h : list.read chars = .ok (final, last, rest)) : rest <:+ chars := by
  induction chars generalizing list with
  | nil => cases h
  | cons c after ih =>
    unfold FlagList.read at h
    split at h
    · split at h
      · cases h
      · cases h; exact List.suffix_cons ..
    · obtain ⟨next, _, h⟩ := ok_of_bind h
      exact (ih h).trans (List.suffix_cons ..)

theorem readGroupName_suffix {name : List Char}
    (h : readGroupName chars = .ok (name, rest)) : rest <:+ chars := by
  unfold readGroupName at h
  dsimp only at h
  split at h
  · cases h
  · rename_i eq
    have := List.dropWhile_suffix (l := chars) (· != '>')
    rw [eq] at this
    split at h
    · cases h
      exact (List.suffix_cons ..).trans this
    · cases h

theorem readNamedGroup_suffix {reading next : Reading}
    (h : readNamedGroup reading chars = .ok (next, rest)) : rest <:+ chars := by
  unfold readNamedGroup at h
  obtain ⟨⟨name, after⟩, eq, h⟩ := ok_of_bind h
  dsimp only at h
  split at h
  · cases h
  · cases h
    exact readGroupName_suffix eq

theorem readGroup_suffix {reading next : Reading}
    (h : readGroup reading chars = .ok (next, rest)) : rest <:+ chars := by
  have begin := skip_suffix reading.flags.extended chars
  unfold readGroup at h
  split at h
  · cases h
  · cases h
  · cases h
  · cases h
  · rename_i eq
    rw [eq] at begin
    exact (readNamedGroup_suffix h).trans ((List.suffix_append ['?', 'P', '<'] _).trans begin)
  · rename_i eq
    rw [eq] at begin
    exact (readNamedGroup_suffix h).trans ((List.suffix_append ['?', '<'] _).trans begin)
  · rename_i eq
    rw [eq] at begin
    obtain ⟨⟨list, last, after⟩, flags, h⟩ := ok_of_bind h
    have within := (FlagList.read_suffix flags).trans ((List.suffix_cons '?' _).trans begin)
    dsimp only at h
    split at h
    · cases h; exact within
    · split at h
      · cases h
      · cases h; exact within
  · cases h
    exact begin

theorem readNegation_suffix (chars : List Char) : (readNegation chars).2 <:+ chars := by
  unfold readNegation
  split
  · exact List.suffix_cons ..
  · exact List.suffix_refl _

theorem OpenClass.readHyphens_suffix (extended inComment : Bool) (cls : OpenClass)
    (chars : List Char) : (cls.readHyphens extended inComment chars).2 <:+ chars := by
  fun_induction OpenClass.readHyphens extended inComment cls chars with
  | case1 => exact List.suffix_refl _
  | case2 _ _ _ ih => exact ih.trans (List.suffix_cons ..)
  | case3 _ _ _ _ _ _ ih => exact ih.trans (List.suffix_cons ..)
  | case4 _ _ _ _ _ _ _ ih => exact ih.trans (List.suffix_cons ..)
  | case5 _ _ _ _ _ _ ih => exact ih.trans (List.suffix_cons ..)
  | case6 => exact List.suffix_refl _

theorem OpenClass.start_suffix (chars : List Char) :
    (OpenClass.start extended chars).2 <:+ chars := by
  have opened := (OpenClass.readHyphens_suffix extended false
    ⟨(readNegation (skip extended chars)).1, none, []⟩ (readNegation (skip extended chars)).2).trans
    ((readNegation_suffix _).trans (skip_suffix extended chars))
  unfold OpenClass.start
  dsimp only
  split
  · rename_i eq
    split
    · rw [eq] at opened
      exact (List.suffix_cons ..).trans opened
    · exact opened
  · exact opened

theorem readAsciiClass?_suffix {set : Charset} {negated : Bool}
    (h : readAsciiClass? chars = some (set, negated, rest)) : rest <:+ chars := by
  unfold readAsciiClass? at h
  split at h
  · rename_i after
    dsimp only at h
    split at h
    · rename_i final eq
      have := List.dropWhile_suffix (l := (readNegation after).2) (· != ':')
      rw [eq] at this
      obtain ⟨_, _, pair⟩ := Option.map_eq_some_iff.mp h
      cases pair
      exact (List.suffix_append [':', ']'] _).trans
        (this.trans ((readNegation_suffix _).trans (List.suffix_cons ..)))
    · cases h
  · cases h

theorem readMember_suffix {flags : Flags} {c : Char} {atom : Atom}
    (h : readMember flags c chars = .ok (atom, rest)) : rest <:+ chars := by
  unfold readMember at h
  split at h
  · exact readEscape_suffix h
  · cases h
    exact List.suffix_refl _

theorem rangeEnd?_suffix (h : rangeEnd? extended chars = some rest) : rest <:+ chars := by
  have := skip_suffix extended chars
  unfold rangeEnd? at h
  split at h
  · rename_i eq
    rw [eq] at this
    split at h
    · cases h
    · cases h
    · cases h
      exact (skip_suffix ..).trans ((List.suffix_cons ..).trans this)
  · cases h

theorem readMembers_suffix {flags : Flags} {c : Char} {part : ClassPart}
    (h : readMembers flags c chars = .ok (part, rest)) : rest <:+ chars := by
  unfold readMembers at h
  obtain ⟨⟨atom, after⟩, first, h⟩ := ok_of_bind h
  have begin := readMember_suffix first
  dsimp only at h
  split at h
  · cases h
  · rename_i next ahead eq
    obtain ⟨⟨last, final⟩, second, h⟩ := ok_of_bind h
    have next := (readMember_suffix second).trans
      ((List.suffix_cons ..).trans ((rangeEnd?_suffix eq).trans begin))
    dsimp only at h
    split at h
    · split at h
      · cases h
      · obtain ⟨_, _, h⟩ := ok_of_bind h
        obtain ⟨_, _, h⟩ := ok_of_bind h
        cases h
        exact next
    · cases h
  · split at h
    · obtain ⟨_, _, h⟩ := ok_of_bind h
      cases h
      exact begin
    · cases h
      exact begin
    · cases h

theorem dropLazyMark_suffix (chars : List Char) : dropLazyMark chars <:+ chars := by
  unfold dropLazyMark
  split
  · exact List.suffix_cons ..
  · exact List.suffix_refl _

namespace Reading

variable {reading next : Reading} {c : Char}

theorem stepInClass_suffix {cls : OpenClass} {outer : List OpenClass}
    (h : reading.stepInClass cls outer c chars = .ok (next, rest)) : rest <:+ chars := by
  unfold stepInClass at h
  dsimp only at h
  split at h
  · split at h
    · rename_i eq
      obtain ⟨_, _, h⟩ := ok_of_bind h
      cases h
      exact readAsciiClass?_suffix eq
    · cases h
      exact OpenClass.start_suffix _
  · obtain ⟨_, _, h⟩ := ok_of_bind h
    cases h
    exact List.suffix_refl _
  · cases h; exact List.suffix_cons ..
  · cases h; exact List.suffix_cons ..
  · cases h; exact List.suffix_cons ..
  · obtain ⟨_, eq, h⟩ := ok_of_bind h
    cases h
    exact readMembers_suffix eq

theorem stepOutside_suffix (h : reading.stepOutside c chars = .ok (next, rest)) :
    rest <:+ chars := by
  unfold stepOutside at h
  dsimp only at h
  split at h
  · exact readGroup_suffix h
  · obtain ⟨_, _, h⟩ := ok_of_bind h
    cases h
    exact List.suffix_refl _
  · cases h; exact List.suffix_refl _
  · cases h; exact OpenClass.start_suffix _
  · obtain ⟨_, _, h⟩ := ok_of_bind h
    cases h
    exact dropLazyMark_suffix _
  · obtain ⟨_, _, h⟩ := ok_of_bind h
    cases h
    exact dropLazyMark_suffix _
  · obtain ⟨_, _, h⟩ := ok_of_bind h
    cases h
    exact dropLazyMark_suffix _
  · obtain ⟨⟨⟨min, max⟩, after⟩, bounds, h⟩ := ok_of_bind h
    obtain ⟨_, _, h⟩ := ok_of_bind h
    cases h
    exact (dropLazyMark_suffix _).trans ((skip_suffix ..).trans (readBounds_suffix bounds))
  · obtain ⟨_, _, h⟩ := ok_of_bind h
    cases h
    exact List.suffix_refl _
  · cases h; exact List.suffix_refl _
  · cases h; exact List.suffix_refl _
  · obtain ⟨⟨atom, after⟩, eq, h⟩ := ok_of_bind h
    have := readEscape_suffix eq
    dsimp only at h
    split at h
    · obtain ⟨_, _, h⟩ := ok_of_bind h
      cases h
      exact this
    · cases h; exact this
    · cases h; exact this
  · obtain ⟨_, _, h⟩ := ok_of_bind h
    cases h
    exact List.suffix_refl _

theorem step_suffix (h : reading.step c chars = .ok (next, rest)) : rest <:+ chars := by
  unfold step at h
  split at h
  · exact stepOutside_suffix h
  · exact stepInClass_suffix h

end Reading

end TagMenu.Pattern
