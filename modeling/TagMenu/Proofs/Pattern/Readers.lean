import Mathlib
import TagMenu.Proofs.Pattern.Ending

namespace TagMenu.Pattern

variable {extended : Bool} {chars rest left left' : List Char} {flags : Flags} {c : Char}

theorem throw_eq {α : Type} (fault : Fault) : (throw fault : Except Fault α) = .error fault := rfl

theorem goes_readCount (both : Left left left') : Goes (readCount extended left) (readCount extended left') := by
  have digits : Char.isDigit ')' = false := by decide
  have start := both.dropBlanks
  unfold readCount
  dsimp only
  generalize left.dropWhile Text.isBlank = alone, left'.dropWhile Text.isBlank = ended at start ⊢
  cases start with
  | taken => exact .fails _ _
  | ended =>
    obtain ⟨same, behind⟩ := left_spanVisible digits false alone
    rw [same]
    split
    · exact .fails _ _
    · split
      · exact .reads _ behind.dropBlanks
      · exact .fails _ _

def readMost (extended : Bool) (min : Nat) (chars : List Char) : Except Fault ((Nat × Option Nat) × List Char) := do
  let (max, rest) ← readCount extended chars
  match rest with
  | '\x7d' :: rest => if min ≤ max then return ((min, some max), rest) else throw .reversedCount
  | _ => throw .unclosedCount

theorem goes_readMost (min : Nat) (both : Left left left') :
    Goes (readMost extended min left) (readMost extended min left') := by
  refine (goes_readCount both).bind ?_ fun fault max => .fails _ _
  intro max left left' both
  obtain ⟨rfl, rfl | rfl⟩ | ⟨c, rest, rfl, rfl⟩ := both.shapes
  · exact .fails _ _
  · exact .fails _ _
  · by_cases brace : c = '\x7d'
    · subst brace
      change Goes (if min ≤ max then _ else _) (if min ≤ max then _ else _)
      split
      · exact .reads _ (.ended rest)
      · exact .fails _ _
    · simpa [brace, throw_eq] using Goes.fails _ _

theorem goes_readBounds : Goes (readBounds extended chars) (readBounds extended (chars ++ ending)) := by
  refine (goes_readCount (left_skip extended chars)).bind ?_ fun fault min => .fails _ _
  intro min left left' both
  obtain ⟨rfl, rfl | rfl⟩ | ⟨c, rest, rfl, rfl⟩ := both.shapes
  · exact .fails _ _
  · exact .fails _ _
  · by_cases brace : c = '\x7d'
    · subst brace
      exact .reads _ (.ended rest)
    · by_cases comma : c = ','
      · subst comma
        have visible := left_skip extended rest
        change Goes (match skip extended rest with
            | '\x7d' :: rest => return ((min, none), rest)
            | rest => readMost extended min rest)
          (match skip extended (rest ++ ending) with
            | '\x7d' :: rest => return ((min, none), rest)
            | rest => readMost extended min rest)
        generalize skip extended (rest ++ ending) = ended, skip extended rest = alone at visible ⊢
        obtain ⟨rfl, rfl | rfl⟩ | ⟨c, rest, rfl, rfl⟩ := visible.shapes
        · exact goes_readMost min .taken
        · exact goes_readMost min (.ended [])
        · by_cases brace : c = '\x7d'
          · subst brace
            exact .reads _ (.ended rest)
          · simpa [brace] using goes_readMost min (.ended (c :: rest))
      · simpa [brace, comma, throw_eq] using Goes.fails _ _

theorem goes_readDigits (count : Nat) (both : Left left left') :
    Goes (readDigits extended count left) (readDigits extended count left') := by
  induction count generalizing left left' with
  | zero => exact .reads [] both
  | succ count ih =>
    obtain ⟨rfl, rfl | rfl⟩ | ⟨c, rest, rfl, rfl⟩ := both.shapes
    · exact .fails _ _
    · exact .fails _ _
    · rw [readDigits, readDigits]
      cases Text.hexValue? c with
      | none => exact .fails _ _
      | some digit => exact (ih (left_skip extended rest)).map (digit :: ·)

theorem goes_readHex (count : Nat) :
    Goes (readHex extended count chars) (readHex extended count (chars ++ ending)) := by
  have unbraced {left left' : List Char} (both : Left left left') :
      Goes (readDigits extended count left >>= fun found => return (← characterOf found.1, found.2))
        (readDigits extended count left' >>= fun found => return (← characterOf found.1, found.2)) :=
    (goes_readDigits count both).bind (fun digits _ _ both => goes_return (characterOf digits) id both)
      fun fault digits => goes_takes fault (characterOf digits) id
  have visible := left_skip extended chars
  unfold readHex
  generalize skip extended (chars ++ ending) = ended, skip extended chars = alone at visible ⊢
  obtain ⟨rfl, rfl | rfl⟩ | ⟨c, rest, rfl, rfl⟩ := visible.shapes
  · exact unbraced .taken
  · exact unbraced (.ended [])
  · by_cases brace : c = '\x7b'
    · subst brace
      simp only
      obtain ⟨text, text', span, span'⟩ | ⟨text, d, more, span, span'⟩ := span_brace extended rest
      · rw [span, span']
        exact .fails _ _
      · rw [span, span']
        by_cases brace : d = '\x7d'
        · subst brace
          simp only
          split
          · exact .fails _ _
          · exact .fails _ _
          · exact goes_return _ id (.ended more)
        · simpa [brace] using Goes.fails _ _
    · simpa [brace] using unbraced (.ended (c :: rest))

theorem goes_readPropertyText :
    Goes (readPropertyText extended chars) (readPropertyText extended (chars ++ ending)) := by
  have visible := left_skip extended chars
  unfold readPropertyText
  generalize skip extended (chars ++ ending) = ended, skip extended chars = alone at visible ⊢
  obtain ⟨rfl, rfl | rfl⟩ | ⟨c, rest, rfl, rfl⟩ := visible.shapes
  · exact .fails _ _
  · exact .takes _ _
  · by_cases brace : c = '\x7b'
    · subst brace
      simp only
      obtain ⟨text, text', span, span'⟩ | ⟨text, d, more, span, span'⟩ := span_brace extended rest
      · rw [span, span']
        exact .fails _ _
      · rw [span, span']
        by_cases brace : d = '\x7d'
        · subst brace
          exact .reads text (.ended more)
        · simpa [brace] using Goes.fails _ _
    · by_cases slash : c = '\\'
      · subst slash
        exact .fails _ _
      · simpa [brace, slash] using Goes.reads [c] (.ended rest)

theorem goes_readProperty {negated : Bool} :
    Goes (readProperty flags negated chars) (readProperty flags negated (chars ++ ending)) := by
  unfold readProperty
  refine goes_readPropertyText.bind ?_ ?_
  · intro text left left' both
    simp only
    split
    · exact .fails _ _
    · split
      · exact .fails _ _
      · exact goes_return _ id both
  · intro fault text
    simp only
    split
    · exact .fails _ _
    · split
      · exact .fails _ _
      · exact goes_takes fault _ id

/-- By itself a reader lacks the end of what is in braces; before the ending it is done without the braces. -/
def Strands {α : Type} (extended : Bool) (value : α) (alone ended : Except Fault (α × List Char)) : Prop :=
  ∃ fault after, alone = .error fault ∧ ended = .ok (value, '\x7b' :: after) ∧ skip extended after = ending

theorem goes_readWordEdge (extended : Bool) (chars : List Char) :
    Goes (readWordEdge extended chars) (readWordEdge extended (chars ++ ending)) ∨
      Strands extended .boundary (readWordEdge extended chars) (readWordEdge extended (chars ++ ending)) := by
  have letters : isEdgeLetter ')' = false := by decide
  cases chars with
  | nil => exact .inl (Goes.reads WordEdge.boundary (.ended []))
  | cons c rest =>
    by_cases brace : c = '\x7b'
    · subst brace
      have visible := left_skip extended rest
      obtain ⟨none, none' | none'⟩ | ⟨first, after, some, some'⟩ := visible.shapes
      · refine .inl ?_
        simpa [readWordEdge, none, none'] using Goes.fails _ _
      · refine .inr ⟨.unfinishedEscape, rest ++ ending, ?_, ?_, none'⟩
        · simp [readWordEdge, none]
        · rw [List.cons_append, readWordEdge, none']
          rfl
      · refine .inl ?_
        rw [List.cons_append]
        unfold readWordEdge
        simp only
        rw [some, some']
        simp only
        split
        · obtain ⟨same, behind⟩ := left_spanVisible letters false (first :: after)
          rw [List.cons_append] at same behind
          generalize spanVisible extended isEdgeLetter false (first :: (after ++ ending)) = ended,
            spanVisible extended isEdgeLetter false (first :: after) = alone at same behind ⊢
          obtain ⟨name, left⟩ := alone
          obtain ⟨name', left'⟩ := ended
          cases same
          obtain ⟨rfl, rfl | rfl⟩ | ⟨d, more, rfl, rfl⟩ := behind.shapes
          · exact .fails _ _
          · exact .fails _ _
          · by_cases brace : d = '\x7d'
            · subst brace
              simp only
              split
              · exact .reads _ (.ended more)
              · exact .fails _ _
            · simpa [brace] using Goes.fails _ _
        · exact .reads WordEdge.boundary (.ended ('\x7b' :: rest))
    · refine .inl ?_
      simpa [readWordEdge, brace] using Goes.reads WordEdge.boundary (.ended (c :: rest))

theorem head?_skip (extended : Bool) (chars : List Char) :
    (skip extended (chars ++ ending)).head? = some '\x7b' ↔ (skip extended chars).head? = some '\x7b' := by
  have both := left_skip extended chars
  generalize skip extended (chars ++ ending) = left', skip extended chars = left at both
  cases both with
  | taken => rfl
  | ended => cases left <;> simp [ending]

theorem goes_readEscape (flags : Flags) (chars : List Char) :
    Goes (readEscape flags chars) (readEscape flags (chars ++ ending)) ∨ ∃ condition,
      Strands flags.extended (.look condition) (readEscape flags chars) (readEscape flags (chars ++ ending)) := by
  cases chars with
  | nil => exact .inl (Goes.takes Fault.unfinishedEscape (Atom.char ')' false))
  | cons c after =>
    rw [List.cons_append]
    by_cases edge : c = 'b'
    · subst edge
      rcases goes_readWordEdge flags.extended after with goes | ⟨fault, more, alone, ended, visible⟩
      · exact .inl (goes.map fun edge => Atom.look (.word edge !flags.unicode))
      · refine .inr ⟨.word .boundary !flags.unicode, fault, more, ?_, ?_, visible⟩
        · simp only [readEscape, alone]
          rfl
        · simp only [readEscape, ended]
          rfl
    refine .inl ?_
    unfold readEscape
    dsimp only
    split
    · simp only [head?_skip]
      exact (goes_readHex 2).map (Atom.char · !decide ((skip flags.extended after).head? = some '\x7b'))
    · exact (goes_readHex 4).map (Atom.char · false)
    · exact (goes_readHex 8).map (Atom.char · false)
    · exact goes_readProperty.map Atom.set
    · exact goes_readProperty.map Atom.set
    · exact .reads _ (.ended after)
    · exact .reads _ (.ended after)
    · exact .reads _ (.ended after)
    · exact .reads _ (.ended after)
    · exact .reads _ (.ended after)
    · cases edge rfl
    · split
      · split
        · exact .fails _ _
        · exact .reads _ (.ended after)
      · split
        · exact .reads _ (.ended after)
        · split
          · exact .fails _ _
          · split
            · exact .reads _ (.ended after)
            · exact .fails _ _

theorem goes_flagList {α : Type} {next : FlagList × Char × List Char → Except Fault (α × List Char)} (list : FlagList)
    (chars : List Char)
    (reads : ∀ final last left, Goes (next (final, last, left)) (next (final, last, left ++ ending)))
    (takes : ∀ fault final, Goes (.error fault) (next (final, ')', ['$']))) :
    Goes (list.read chars >>= next) (list.read (chars ++ ending) >>= next) := by
  induction chars generalizing list with
  | nil =>
    have alone : list.read [] = .error .unclosedGroup := rfl
    have ended : list.read ending = if list.dangling then .error .danglingNegation else .ok (list, ')', ['$']) := rfl
    rw [List.nil_append, alone, ended]
    split
    · exact .fails _ _
    · exact takes _ list
  | cons c after ih =>
    rw [List.cons_append, FlagList.read, FlagList.read]
    split
    · split
      · exact .fails _ _
      · exact reads list c after
    · cases list.push c with
      | error fault => exact .fails fault fault
      | ok pushed => exact ih pushed

theorem goes_readGroupName : Goes (readGroupName chars) (readGroupName (chars ++ ending)) := by
  unfold readGroupName
  dsimp only
  by_cases none : chars.dropWhile (· != '>') = []
  · have all := List.dropWhile_eq_nil_iff.mp none
    have none' : (chars ++ ending).dropWhile (· != '>') = [] := by
      rw [List.dropWhile_append_of_pos all]
      rfl
    rw [none, none']
    exact .fails _ _
  · rw [takeWhile_ending none, dropWhile_ending none]
    obtain ⟨bracket, rest, found⟩ := List.exists_cons_of_ne_nil none
    rw [found]
    simp only [List.cons_append]
    split
    · exact .reads _ (.ended rest)
    · exact .fails _ _

theorem goes_readNamedGroup {reading : Reading} :
    Goes (readNamedGroup reading chars) (readNamedGroup reading (chars ++ ending)) := by
  unfold readNamedGroup
  refine goes_readGroupName.bind ?_ ?_
  · intro name left left' both
    dsimp only
    split
    · exact .fails _ _
    · exact .reads _ both
  · intro fault name
    dsimp only
    split
    · exact .fails _ _
    · exact .takes _ _

theorem goes_readGroup {reading : Reading} :
    Goes (readGroup reading chars) (readGroup reading (chars ++ ending)) := by
  have visible := left_skip reading.flags.extended chars
  unfold readGroup
  generalize skip reading.flags.extended (chars ++ ending) = ended, skip reading.flags.extended chars = alone
    at visible ⊢
  -- The characters that decide what kind of group it is are none of the ending.
  split
  · rw [visible.eq_append (List.cons_ne_nil _ _)]
    exact .fails _ _
  · rw [visible.eq_append (List.cons_ne_nil _ _)]
    exact .fails _ _
  · rw [visible.eq_append (List.cons_ne_nil _ _)]
    exact .fails _ _
  · rw [visible.eq_append (List.cons_ne_nil _ _)]
    exact .fails _ _
  · rw [visible.eq_append (List.cons_ne_nil _ _)]
    exact goes_readNamedGroup
  · rename_i after alone notEqual notBang
    have equal := not_cons_ending notEqual (by decide)
    have bang := not_cons_ending notBang (by decide)
    rw [visible.eq_append (List.cons_ne_nil _ _)]
    simp only [List.cons_append]
    exact goes_readNamedGroup
  · rename_i alone notEqual notBang _ _ notNamed notAngle
    have equal := not_cons_ending notEqual (by decide)
    have bang := not_cons_ending notBang (by decide)
    have angle := not_cons_ending notAngle (by decide)
    have named : ∀ rest, alone ++ ending = 'P' :: '<' :: rest → False := by
      intro rest same
      obtain ⟨before, first, others⟩ := (Left.ended alone).exists_cons same (by decide)
      obtain ⟨after, second, -⟩ := (Left.ended before).exists_cons others.symm (by decide)
      exact notNamed after (by rw [first, second])
    have behind : ∀ tail, alone ++ ending = '<' :: '=' :: tail → False := fun tail => angle ('=' :: tail)
    have notBehind : ∀ tail, alone ++ ending = '<' :: '!' :: tail → False := fun tail => angle ('!' :: tail)
    rw [visible.eq_append (List.cons_ne_nil _ _)]
    simp only [List.cons_append]
    refine goes_flagList {} alone ?_ ?_
    · intro list last left
      dsimp only
      split
      · exact .reads _ (.ended left)
      · split
        · exact .fails _ _
        · exact .reads _ (.ended left)
    · intro fault list
      dsimp only
      split
      · exact .takes _ _
      · split
        · exact .fails _ _
        · exact .takes _ _
  · rename_i notMark
    cases visible with
    | taken => exact .reads _ .taken
    | ended =>
      have mark := not_cons_ending notMark (by decide)
      split
      all_goals first
        | exact .reads _ (.ended alone)
        | rename_i same
          exact (mark _ same).elim

end TagMenu.Pattern
