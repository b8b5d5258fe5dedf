import Mathlib
import TagMenu.Pattern.Progress

namespace TagMenu.Pattern

variable {extended : Bool} {chars rest left left' : List Char} {flags : Flags} {c : Char}

def ending : List Char := [')', '$']

/-- What is left of characters, and what is left of them with the ending behind them. -/
inductive Left : List Char → List Char → Prop
  | ended (left : List Char) : Left left (left ++ ending)
  | taken : Left [] []

theorem bind_ok {ε α β : Type} (value : α) (next : α → Except ε β) : (Except.ok value >>= next) = next value := rfl

theorem Left.eq_append (both : Left left left') (some : left ≠ []) : left' = left ++ ending := by
  cases both with
  | ended => rfl
  | taken => cases some rfl

theorem Left.shapes (both : Left left left') :
    left = [] ∧ (left' = [] ∨ left' = ending) ∨ ∃ c rest, left = c :: rest ∧ left' = c :: (rest ++ ending) := by
  cases both with
  | taken => exact .inl ⟨rfl, .inl rfl⟩
  | ended =>
    cases left with
    | nil => exact .inl ⟨rfl, .inr rfl⟩
    | cons c rest => exact .inr ⟨c, rest, rfl, rfl⟩

theorem Left.exists_cons (both : Left left left') (same : left' = c :: rest) (other : c ≠ ')') :
    ∃ before, left = c :: before ∧ rest = before ++ ending := by
  obtain ⟨rfl, rfl | rfl⟩ | ⟨d, before, rfl, rfl⟩ := both.shapes
  · cases same
  · obtain ⟨rfl, -⟩ := List.cons.inj same
    cases other rfl
  · obtain ⟨rfl, rfl⟩ := List.cons.inj same
    exact ⟨before, rfl, rfl⟩

theorem not_cons_ending (other : ∀ tail, chars = c :: tail → False) (plain : c ≠ ')') :
    ∀ tail, chars ++ ending = c :: tail → False := by
  intro tail same
  obtain ⟨before, visible, -⟩ := (Left.ended chars).exists_cons same plain
  exact other before visible

/-- How a reader goes by itself, and how it goes with the ending behind its characters. -/
inductive Goes {α : Type} : Except Fault (α × List Char) → Except Fault (α × List Char) → Prop
  | reads (value : α) {left left' : List Char} (both : Left left left') : Goes (.ok (value, left)) (.ok (value, left'))
  | fails (fault fault' : Fault) : Goes (.error fault) (.error fault')
  | takes (fault : Fault) (value : α) : Goes (.error fault) (.ok (value, ['$']))

section Goes

variable {α β : Type} {alone ended : Except Fault (α × List Char)}

theorem Goes.bind {next : α × List Char → Except Fault (β × List Char)} (goes : Goes alone ended)
    (reads : ∀ value {left left'}, Left left left' → Goes (next (value, left)) (next (value, left')))
    (takes : ∀ fault value, Goes (.error fault) (next (value, ['$']))) : Goes (alone >>= next) (ended >>= next) := by
  cases goes with
  | reads value both => exact reads value both
  | fails fault fault' => exact .fails fault fault'
  | takes fault value => exact takes fault value

theorem Goes.exists_ok {value : α} (goes : Goes (.ok (value, left)) ended) :
    ∃ left', ended = .ok (value, left') ∧ Left left left' := by
  cases goes with
  | reads value both => exact ⟨_, rfl, both⟩

theorem Goes.map (goes : Goes alone ended) (meaning : α → β) :
    Goes (alone >>= fun found => return (meaning found.1, found.2))
      (ended >>= fun found => return (meaning found.1, found.2)) :=
  goes.bind (fun value _ _ both => .reads (meaning value) both) fun fault value => .takes fault (meaning value)

theorem goes_return (result : Except Fault α) (meaning : α → β) (both : Left left left') :
    Goes (result >>= fun value => return (meaning value, left))
      (result >>= fun value => return (meaning value, left')) := by
  cases result with
  | error fault => exact .fails fault fault
  | ok value => exact .reads (meaning value) both

theorem goes_takes (fault : Fault) (result : Except Fault α) (meaning : α → β) :
    Goes (.error fault) (result >>= fun value => return (meaning value, ['$'])) := by
  cases result with
  | error fault' => exact .fails fault fault'
  | ok value => exact .takes fault (meaning value)

end Goes

theorem left_dropTrivia (inComment : Bool) (chars : List Char) :
    Left (dropTrivia inComment chars) (dropTrivia inComment (chars ++ ending)) := by
  fun_induction dropTrivia inComment chars with
  | case1 inComment =>
    cases inComment with
    | false => exact .ended []
    | true => exact .taken
  | case2 c rest ih => simpa [dropTrivia] using ih
  | case3 inComment c rest outside blank ih => simpa [dropTrivia, outside, blank] using ih
  | case4 inComment rest outside blank ih => simpa [dropTrivia, outside, blank] using ih
  | case5 inComment c rest outside blank sign => simpa [dropTrivia, outside, blank, sign] using Left.ended (c :: rest)

theorem left_skip (extended : Bool) (chars : List Char) :
    Left (skip extended chars) (skip extended (chars ++ ending)) := by
  cases extended with
  | false => exact .ended chars
  | true => exact left_dropTrivia false chars

theorem Left.skip (both : Left left left') (extended : Bool) :
    Left (Pattern.skip extended left) (Pattern.skip extended left') := by
  cases both with
  | ended => exact left_skip extended left
  | taken => cases extended <;> exact .taken

theorem skip_ending (some : skip extended chars ≠ []) :
    skip extended (chars ++ ending) = skip extended chars ++ ending :=
  (left_skip extended chars).eq_append some

theorem left_spanVisible {keep : Char → Bool} (stop : keep ')' = false) (inComment : Bool) (chars : List Char) :
    (spanVisible extended keep inComment (chars ++ ending)).1 = (spanVisible extended keep inComment chars).1 ∧
      Left (spanVisible extended keep inComment chars).2 (spanVisible extended keep inComment (chars ++ ending)).2 := by
  fun_induction spanVisible extended keep inComment chars with
  | case1 inComment =>
    cases inComment with
    | true => exact ⟨rfl, .taken⟩
    | false =>
      have none : spanVisible extended keep false ending = ([], ending) := by
        cases extended <;> simp [ending, spanVisible, stop, Text.isBlank]
      rw [List.nil_append, none]
      exact ⟨rfl, .ended []⟩
  | case2 c rest ih => simpa [spanVisible] using ih
  | case3 inComment c rest outside blank ih => simpa [spanVisible, outside, blank] using ih
  | case4 inComment c rest outside blank sign ih => simpa [spanVisible, outside, blank, sign] using ih
  | case5 inComment c rest outside blank sign kept more others same ih =>
    simpa [spanVisible, outside, blank, sign, kept, same] using ih
  | case6 inComment c rest outside blank sign stop =>
    simpa [spanVisible, outside, blank, sign, stop] using Left.ended (c :: rest)

theorem spanVisible_ending {keep : Char → Bool} {inComment : Bool} {run : List Char}
    (span : spanVisible extended keep inComment chars = (run, left)) (some : left ≠ []) :
    spanVisible extended keep inComment (chars ++ ending) = (run, left ++ ending) := by
  fun_induction spanVisible extended keep inComment chars generalizing run left with
  | case1 =>
    cases span
    cases some rfl
  | case2 c rest ih => simpa [spanVisible] using ih span some
  | case3 inComment c rest outside blank ih => simpa [spanVisible, outside, blank] using ih span some
  | case4 inComment c rest outside blank sign ih => simpa [spanVisible, outside, blank, sign] using ih span some
  | case5 inComment c rest outside blank sign kept more others same ih =>
    obtain ⟨rfl, rfl⟩ := Prod.mk.inj span
    have further := ih same some
    simp [spanVisible, outside, blank, sign, kept, further]
  | case6 inComment c rest outside blank sign stop =>
    obtain ⟨rfl, rfl⟩ := Prod.mk.inj span
    simp [spanVisible, outside, blank, sign, stop]

theorem spanVisible_through {keep : Char → Bool} {inComment : Bool} (through : ∀ c ∈ ending, keep c = true)
    (none : (spanVisible extended keep inComment chars).2 = []) :
    (spanVisible extended keep inComment (chars ++ ending)).2 = [] := by
  fun_induction spanVisible extended keep inComment chars with
  | case1 inComment =>
    have bracket : keep ')' = true := through ')' (by decide)
    have dollar : keep '$' = true := through '$' (by decide)
    cases inComment <;> cases extended <;> simp [ending, spanVisible, bracket, dollar, Text.isBlank]
  | case2 c rest ih => simpa [spanVisible] using ih none
  | case3 inComment c rest outside blank ih => simpa [spanVisible, outside, blank] using ih none
  | case4 inComment c rest outside blank sign ih => simpa [spanVisible, outside, blank, sign] using ih none
  | case5 inComment c rest outside blank sign kept more others same ih =>
    simpa [spanVisible, outside, blank, sign, kept] using ih (by rw [same]; exact none)
  | case6 => cases none

theorem span_brace (extended : Bool) (chars : List Char) :
    (∃ text text', spanVisible extended (· != '\x7d') false chars = (text, []) ∧
        spanVisible extended (· != '\x7d') false (chars ++ ending) = (text', [])) ∨
      ∃ text c rest, spanVisible extended (· != '\x7d') false chars = (text, c :: rest) ∧
        spanVisible extended (· != '\x7d') false (chars ++ ending) = (text, c :: (rest ++ ending)) := by
  cases span : spanVisible extended (· != '\x7d') false chars with
  | mk text left =>
    cases left with
    | nil =>
      have none := spanVisible_through (by simp [ending]) (congrArg Prod.snd span)
      exact .inl ⟨text, _, rfl, Prod.ext rfl none⟩
    | cons c rest => exact .inr ⟨text, c, rest, rfl, spanVisible_ending span (List.cons_ne_nil c rest)⟩

theorem dropWhile_ending {drop : Char → Bool} (some : chars.dropWhile drop ≠ []) :
    (chars ++ ending).dropWhile drop = chars.dropWhile drop ++ ending := by
  rw [List.dropWhile_append, if_neg (by simpa using some)]

theorem takeWhile_ending {keep : Char → Bool} (some : chars.dropWhile keep ≠ []) :
    (chars ++ ending).takeWhile keep = chars.takeWhile keep := by
  induction chars with
  | nil => cases some rfl
  | cons c rest ih =>
    by_cases kept : keep c = true
    · rw [List.dropWhile_cons_of_pos kept] at some
      rw [List.cons_append, List.takeWhile_cons_of_pos kept, List.takeWhile_cons_of_pos kept, ih some]
    · rw [List.cons_append, List.takeWhile_cons_of_neg kept, List.takeWhile_cons_of_neg kept]

theorem Left.dropBlanks (both : Left left left') :
    Left (left.dropWhile Text.isBlank) (left'.dropWhile Text.isBlank) := by
  cases both with
  | taken => exact .taken
  | ended =>
    by_cases none : left.dropWhile Text.isBlank = []
    · have ends : (left ++ ending).dropWhile Text.isBlank = [] ++ ending := by
        rw [List.dropWhile_append, none]
        rfl
      rw [none, ends]
      exact .ended []
    · rw [dropWhile_ending none]
      exact .ended _

theorem left_dropLazyMark (both : Left left left') : Left (dropLazyMark left) (dropLazyMark left') := by
  obtain ⟨rfl, rfl | rfl⟩ | ⟨c, rest, rfl, rfl⟩ := both.shapes
  · exact .taken
  · exact .ended []
  · by_cases mark : c = '?'
    · subst mark
      exact .ended rest
    · simpa [dropLazyMark, mark] using Left.ended (c :: rest)

end TagMenu.Pattern
