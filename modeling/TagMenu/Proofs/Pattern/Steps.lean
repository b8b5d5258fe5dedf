import Mathlib
import TagMenu.Proofs.Pattern.Readers

namespace TagMenu.Pattern

variable {extended : Bool} {chars rest left left' : List Char} {flags : Flags} {c : Char}

theorem readNegation_ending (chars : List Char) :
    readNegation (chars ++ ending) = ((readNegation chars).1, (readNegation chars).2 ++ ending) := by
  cases chars with
  | nil => rfl
  | cons c rest =>
    by_cases caret : c = '^'
    · subst caret
      rfl
    · have plain (rest : List Char) : readNegation (c :: rest) = (false, c :: rest) := by simp [readNegation, caret]
      rw [List.cons_append, plain, plain]
      rfl

theorem left_readHyphens (extended inComment : Bool) (cls : OpenClass) (chars : List Char) :
    (cls.readHyphens extended inComment (chars ++ ending)).1 = (cls.readHyphens extended inComment chars).1 ∧
      Left (cls.readHyphens extended inComment chars).2 (cls.readHyphens extended inComment (chars ++ ending)).2 := by
  fun_induction OpenClass.readHyphens extended inComment cls chars with
  | case1 inComment cls =>
    cases inComment with
    | true => exact ⟨rfl, .taken⟩
    | false =>
      have stop : cls.readHyphens extended false ending = (cls, ending) := by cases extended <;> rfl
      rw [List.nil_append, stop]
      exact ⟨rfl, .ended []⟩
  | case2 cls c rest ih => simpa [OpenClass.readHyphens] using ih
  | case3 inComment cls c rest outside blank ih => simpa [OpenClass.readHyphens, outside, blank] using ih
  | case4 inComment cls c rest outside blank sign ih => simpa [OpenClass.readHyphens, outside, blank, sign] using ih
  | case5 inComment cls rest outside blank sign ih => simpa [OpenClass.readHyphens, outside, blank, sign] using ih
  | case6 inComment cls c rest outside blank sign hyphen =>
    simpa [OpenClass.readHyphens, outside, blank, sign, hyphen] using Left.ended (c :: rest)

theorem left_start (extended : Bool) (chars : List Char) :
    (OpenClass.start extended (chars ++ ending)).1 = (OpenClass.start extended chars).1 ∧
      Left (OpenClass.start extended chars).2 (OpenClass.start extended (chars ++ ending)).2 := by
  have visible := left_skip extended chars
  unfold OpenClass.start
  generalize skip extended (chars ++ ending) = left', skip extended chars = left at visible ⊢
  cases visible with
  | taken => exact ⟨rfl, .taken⟩
  | ended =>
    have hyphens := left_readHyphens extended false ⟨(readNegation left).1, none, []⟩ (readNegation left).2
    rw [readNegation_ending]
    dsimp only
    generalize OpenClass.readHyphens extended false _ ((readNegation left).2 ++ ending) = opened',
      OpenClass.readHyphens extended false _ (readNegation left).2 = opened at hyphens ⊢
    obtain ⟨cls, rest⟩ := opened
    obtain ⟨cls', rest'⟩ := opened'
    obtain ⟨rfl, both⟩ := hyphens
    dsimp only at both ⊢
    obtain ⟨rfl, rfl | rfl⟩ | ⟨c, rest, rfl, rfl⟩ := both.shapes
    · exact ⟨rfl, .taken⟩
    · exact ⟨rfl, .ended []⟩
    · by_cases bracket : c = ']'
      · subst bracket
        simp only
        split
        · exact ⟨rfl, .ended rest⟩
        · exact ⟨rfl, .ended (']' :: rest)⟩
      · simpa [bracket] using Left.ended (c :: rest)

theorem readAsciiClass?_ending (chars : List Char) : readAsciiClass? (chars ++ ending) =
    (readAsciiClass? chars).map fun (set, negated, rest) => (set, negated, rest ++ ending) := by
  cases chars with
  | nil => rfl
  | cons c rest =>
    by_cases colon : c = ':'
    · subst colon
      simp only [List.cons_append, readAsciiClass?, readNegation_ending]
      generalize (readNegation rest).2 = name
      cases found : name.dropWhile (· != ':') with
      | nil =>
        have all := List.dropWhile_eq_nil_iff.mp found
        have none : (name ++ ending).dropWhile (· != ':') = [] := by
          rw [List.dropWhile_append_of_pos all]
          rfl
        rw [none]
        rfl
      | cons d more =>
        have some : name.dropWhile (· != ':') ≠ [] := by simp [found]
        rw [takeWhile_ending some, dropWhile_ending some, found]
        by_cases colon : d = ':'
        · subst colon
          cases more with
          | nil => rfl
          | cons e more =>
            by_cases bracket : e = ']'
            · subst bracket
              simp only [List.cons_append, Option.map_map]
              rfl
            · simp [bracket]
        · simp [colon]
    · simp [readAsciiClass?, colon]

theorem peekPast?_ending (seen : Bool) (chars : List Char) :
    peekPast? seen (chars ++ ending) = (peekPast? seen chars <|> some ')') := by
  fun_induction peekPast? seen chars with
  | case1 => rfl
  | case2 seen c rest blank ih => simpa [peekPast?, blank] using ih
  | case3 seen c rest blank sign ih => simpa [peekPast?, blank, sign] using ih
  | case4 seen c rest blank sign => simp [peekPast?, blank, sign]

theorem head?_of_unseen {seen : Bool} (unseen : peekPast? seen chars = none) (first : chars.head? = some c) :
    Text.isBlank c = true ∨ c = '#' := by
  cases chars with
  | nil => cases first
  | cons d rest =>
    cases first
    rw [peekPast?] at unseen
    split at unseen
    · rename_i blank
      exact .inl blank
    · split at unseen
      · rename_i sign
        simp only [Bool.and_eq_true, decide_eq_true_eq] at sign
        exact .inr sign.1
      · cases unseen

theorem peek?_ending_iff (plain : Text.isBlank c = false) (sign : c ≠ '#') (bracket : c ≠ ')') :
    peek? extended (chars ++ ending) = some c ↔ peek? extended chars = some c := by
  have bracket : ')' ≠ c := bracket.symm
  cases extended with
  | false => cases chars <;> simp [peek?, ending, bracket]
  | true =>
    cases seen : peekPast? false chars with
    | some d => simp [peek?, peekPast?_ending, seen]
    | none =>
      have unseen : chars.head? ≠ some c := by
        intro first
        rcases head?_of_unseen seen first with blank | same
        · rw [plain] at blank
          cases blank
        · exact sign same
      simp [peek?, peekPast?_ending, seen, bracket, unseen]

theorem rangeEnd?_hyphen (hyphen : skip extended chars = '-' :: rest) : rangeEnd? extended chars =
    if peek? extended rest = some ']' ∨ peek? extended rest = some '-' then none else some (skip extended rest) := by
  rw [rangeEnd?, hyphen]
  simp only
  split
  · rename_i bracket
    rw [if_pos (.inl bracket)]
  · rename_i second
    rw [if_pos (.inr second)]
  · rename_i bracket second
    rw [if_neg (not_or.mpr ⟨bracket, second⟩)]

theorem rangeEnd?_other (other : ∀ rest, skip extended chars ≠ '-' :: rest) : rangeEnd? extended chars = none := by
  unfold rangeEnd?
  split
  · rename_i rest same
    cases other rest same
  · rfl

theorem rangeEnd?_ending (extended : Bool) (chars : List Char) :
    rangeEnd? extended chars = none ∧ rangeEnd? extended (chars ++ ending) = none ∨
      ∃ left left', rangeEnd? extended chars = some left ∧ rangeEnd? extended (chars ++ ending) = some left' ∧
        Left left left' := by
  have visible := left_skip extended chars
  by_cases hyphen : ∃ rest, skip extended chars = '-' :: rest
  · obtain ⟨rest, hyphen⟩ := hyphen
    have hyphen' : skip extended (chars ++ ending) = '-' :: (rest ++ ending) := by
      rw [skip_ending (by simp [hyphen]), hyphen]
      rfl
    have bracket : peek? extended (rest ++ ending) = some ']' ↔ peek? extended rest = some ']' :=
      peek?_ending_iff (by decide) (by decide) (by decide)
    have second : peek? extended (rest ++ ending) = some '-' ↔ peek? extended rest = some '-' :=
      peek?_ending_iff (by decide) (by decide) (by decide)
    rw [rangeEnd?_hyphen hyphen, rangeEnd?_hyphen hyphen']
    simp only [bracket, second]
    split
    · exact .inl ⟨rfl, rfl⟩
    · exact .inr ⟨_, _, rfl, rfl, left_skip extended rest⟩
  · have other' (rest : List Char) (same : skip extended (chars ++ ending) = '-' :: rest) : False := by
      obtain ⟨before, first, -⟩ := visible.exists_cons same (by decide)
      exact hyphen ⟨before, first⟩
    have other (rest : List Char) (same : skip extended chars = '-' :: rest) : False := hyphen ⟨rest, same⟩
    exact .inl ⟨rangeEnd?_other other, rangeEnd?_other other'⟩

theorem goes_readMember (flags : Flags) (c : Char) (chars : List Char) :
    Goes (readMember flags c chars) (readMember flags c (chars ++ ending)) ∨ ∃ condition,
      Strands flags.extended (.look condition) (readMember flags c chars) (readMember flags c (chars ++ ending)) := by
  unfold readMember
  split
  · exact goes_readEscape flags chars
  · exact .inl (.reads _ (.ended chars))

def rangePart (flags : Flags) (first last : Atom) : Except Fault ClassPart :=
  match first, last with
  | .char low _, .char high _ => do
    if high < low then throw .reversedRange
    return ⟨.range (← memberChar flags low) (← memberChar flags high), 0⟩
  | _, _ => throw .badRangeEnd

def memberPart (flags : Flags) (atom : Atom) : Except Fault ClassPart :=
  match atom with
  | .char c _ => do
    let code ← memberChar flags c
    return ⟨.range code code, 0⟩
  | .set set => return ⟨set, 0⟩
  | .look _ => throw .badClassMember

def readAfterMember (flags : Flags) (atom : Atom) (rest : List Char) : Except Fault (ClassPart × List Char) :=
  match rangeEnd? flags.extended rest with
  | some [] => throw .unclosedClass
  | some (c :: after) => do
    let (last, rest) ← readMember flags c after
    return (← rangePart flags atom last, rest)
  | none => do return (← memberPart flags atom, rest)

theorem readMembers_eq (flags : Flags) (c : Char) (chars : List Char) : readMembers flags c chars =
    readMember flags c chars >>= fun (atom, rest) => readAfterMember flags atom rest := by
  unfold readMembers
  refine bind_congr fun (atom, rest) => ?_
  dsimp only
  unfold readAfterMember
  cases rangeEnd? flags.extended rest with
  | none =>
    cases atom with
    | char c octet =>
      dsimp only [memberPart]
      cases memberChar flags c <;> rfl
    | set set => rfl
    | look condition => rfl
  | some ahead =>
    cases ahead with
    | nil => rfl
    | cons c after =>
      refine bind_congr fun (last, rest) => ?_
      cases atom <;> cases last <;> try rfl
      rename_i low octet high octet'
      dsimp only [rangePart]
      split
      · rfl
      · cases memberChar flags low <;> cases memberChar flags high <;> rfl

theorem goes_readAfterMember (atom : Atom) (both : Left left left') :
    Goes (readAfterMember flags atom left) (readAfterMember flags atom left') := by
  unfold readAfterMember
  have range : rangeEnd? flags.extended left = none ∧ rangeEnd? flags.extended left' = none ∨
      ∃ ahead ahead', rangeEnd? flags.extended left = some ahead ∧ rangeEnd? flags.extended left' = some ahead' ∧
        Left ahead ahead' := by
    cases both with
    | ended => exact rangeEnd?_ending flags.extended left
    | taken =>
      have none : rangeEnd? flags.extended [] = .none := by cases flags.extended <;> rfl
      exact .inl ⟨none, none⟩
  obtain ⟨none, none'⟩ | ⟨ahead, ahead', found, found', behind⟩ := range
  · rw [none, none']
    exact goes_return _ id both
  rw [found, found']
  obtain ⟨rfl, rfl | rfl⟩ | ⟨c, rest, rfl, rfl⟩ := behind.shapes
  · exact .fails _ _
  · exact goes_takes _ (rangePart flags atom (.char ')' false)) id
  · rcases goes_readMember flags c rest with goes | ⟨condition, fault, after, alone, ended, -⟩
    · exact goes.bind (fun last _ _ both => goes_return (rangePart flags atom last) id both)
        fun fault last => goes_takes fault (rangePart flags atom last) id
    · simp only [alone, ended]
      cases atom <;> exact .fails _ _

theorem goes_readMembers (flags : Flags) (c : Char) (chars : List Char) :
    Goes (readMembers flags c chars) (readMembers flags c (chars ++ ending)) := by
  rw [readMembers_eq, readMembers_eq]
  rcases goes_readMember flags c chars with goes | ⟨condition, fault, after, alone, ended, -⟩
  · refine goes.bind (fun atom _ _ both => goes_readAfterMember atom both) fun fault atom => ?_
    have none : rangeEnd? flags.extended ['$'] = .none := by cases flags.extended <;> rfl
    simp only [readAfterMember, none]
    exact goes_takes fault (memberPart flags atom) id
  · -- An edge of a word is no member.
    have none : rangeEnd? flags.extended ('\x7b' :: after) = .none := by cases flags.extended <;> rfl
    rw [alone, ended, bind_ok]
    simp only [readAfterMember, none]
    exact .fails _ _

namespace Reading

variable {reading : Reading}

theorem goes_openClass : Goes (.ok (reading.openClass chars)) (.ok (reading.openClass (chars ++ ending))) := by
  obtain ⟨same, both⟩ := left_start reading.flags.extended chars
  have opened (chars : List Char) : reading.openClass chars =
      ({ reading with classes := (OpenClass.start reading.flags.extended chars).1 :: reading.classes },
        (OpenClass.start reading.flags.extended chars).2) := rfl
  rw [opened, opened, same]
  exact .reads _ both

theorem goes_stepInClass {cls : OpenClass} {outer : List OpenClass} :
    Goes (reading.stepInClass cls outer c chars) (reading.stepInClass cls outer c (chars ++ ending)) := by
  unfold stepInClass
  dsimp only
  split
  · simp only [readAsciiClass?_ending]
    cases readAsciiClass? chars with
    | none => exact goes_openClass
    | some found => exact goes_return _ _ (.ended found.2.2)
  · exact goes_return _ id (.ended chars)
  · exact .reads _ (.ended _)
  · exact .reads _ (.ended _)
  · exact .reads _ (.ended _)
  · rename_i bracket closing both minus tilde
    have both (rest : List Char) (same : c = '&') : chars ++ ending = '&' :: rest → False :=
      not_cons_ending (both · same) (by decide) rest
    have minus (rest : List Char) (same : c = '-') : chars ++ ending = '-' :: rest → False :=
      not_cons_ending (minus · same) (by decide) rest
    have tilde (rest : List Char) (same : c = '~') : chars ++ ending = '~' :: rest → False :=
      not_cons_ending (tilde · same) (by decide) rest
    simp only
    exact (goes_readMembers reading.flags c chars).map fun part => { reading with classes := cls.push part :: outer }

theorem goes_stepOutside :
    Goes (reading.stepOutside c chars) (reading.stepOutside c (chars ++ ending)) ∨ ∃ condition,
      Strands reading.flags.extended (reading.push (.look condition)) (reading.stepOutside c chars)
        (reading.stepOutside c (chars ++ ending)) := by
  by_cases slash : c = '\\'
  · subst slash
    rcases goes_readEscape reading.flags chars with goes | ⟨condition, fault, after, alone, ended, visible⟩
    · refine .inl (goes.bind ?_ ?_)
      · intro atom left left' both
        cases atom with
        | char c octet => exact goes_return _ reading.push both
        | set set => exact .reads _ both
        | look condition => exact .reads _ both
      · intro fault atom
        cases atom with
        | char c octet => exact goes_takes fault _ reading.push
        | set set => exact .takes fault _
        | look condition => exact .takes fault _
    · refine .inr ⟨condition, fault, after, ?_, ?_, visible⟩
      · simp only [stepOutside, alone]
        rfl
      · simp only [stepOutside, ended]
        rfl
  refine .inl ?_
  unfold stepOutside
  dsimp only
  split
  · exact goes_readGroup
  · exact goes_return _ id (.ended chars)
  · exact .reads _ (.ended chars)
  · exact goes_openClass
  · exact goes_return _ id (left_dropLazyMark (.ended chars))
  · exact goes_return _ id (left_dropLazyMark (.ended chars))
  · exact goes_return _ id (left_dropLazyMark (.ended chars))
  · refine goes_readBounds.bind ?_ ?_
    · intro bounds left left' both
      exact goes_return _ id (left_dropLazyMark (both.skip reading.flags.extended))
    · intro fault bounds
      have dollar : dropLazyMark (skip reading.flags.extended ['$']) = ['$'] := by
        cases reading.flags.extended <;> rfl
      simp only [dollar]
      exact goes_takes fault _ id
  · exact goes_return _ reading.push (.ended chars)
  · exact .reads _ (.ended chars)
  · exact .reads _ (.ended chars)
  · cases slash rfl
  · exact goes_return _ reading.push (.ended chars)

theorem goes_step (reading : Reading) (c : Char) (chars : List Char) :
    Goes (reading.step c chars) (reading.step c (chars ++ ending)) ∨ reading.classes = [] ∧ ∃ condition,
      Strands reading.flags.extended (reading.push (.look condition)) (reading.step c chars)
        (reading.step c (chars ++ ending)) := by
  unfold step
  cases reading.classes with
  | nil => exact goes_stepOutside.imp id fun strands => ⟨rfl, strands⟩
  | cons cls outer => exact .inl goes_stepInClass

theorem step_ending {next : Reading} (stepped : reading.step c chars = .ok (next, left)) :
    ∃ left', reading.step c (chars ++ ending) = .ok (next, left') ∧ Left left left' := by
  rcases goes_step reading c chars with goes | ⟨-, condition, fault, after, fails, -⟩
  · rw [stepped] at goes
    exact goes.exists_ok
  · rw [stepped] at fails
    cases fails

end Reading

end TagMenu.Pattern
