import Mathlib
import TagMenu.Pattern.Keyword
import TagMenu.Proofs.Pattern.Groups
import TagMenu.Proofs.Pattern.Steps

namespace TagMenu

namespace Pattern

variable {reading next final last : Reading} {c : Char} {chars rest left left' : List Char} {around : List OpenGroup}

namespace Reading

/-- What has been read, with more groups around it. -/
def under (reading : Reading) (around : List OpenGroup) : Reading := { reading with outer := reading.outer ++ around }

@[simp] theorem under_flags : (reading.under around).flags = reading.flags := rfl
@[simp] theorem under_classes : (reading.under around).classes = reading.classes := rfl
@[simp] theorem under_group : (reading.under around).group = reading.group := rfl

@[simp] theorem under_nil : reading.under [] = reading := by
  rw [under, List.append_nil]

def Lifts (around : List OpenGroup) (inner outer : Except Fault (Reading × List Char)) : Prop :=
  outer = inner.map fun (next, left) => (next.under around, left)

theorem lifts_bind {α : Type} (result : Except Fault α) {inner outer : α → Except Fault (Reading × List Char)}
    (lifts : ∀ value, Lifts around (inner value) (outer value)) :
    Lifts around (result >>= inner) (result >>= outer) := by
  cases result with
  | error fault => rfl
  | ok value => exact lifts value

theorem lifts_ite {condition : Prop} [Decidable condition]
    {inner inner' outer outer' : Except Fault (Reading × List Char)} (yes : Lifts around inner outer)
    (no : Lifts around inner' outer') :
    Lifts around (if condition then inner else inner') (if condition then outer else outer') := by
  split
  · exact yes
  · exact no

theorem repeatLast_under (min : Nat) (max : Option Nat) :
    (reading.under around).repeatLast min max = (reading.repeatLast min max).map (·.under around) := by
  unfold repeatLast
  rw [under_group]
  cases reading.group.repeatLast min max <;> rfl

theorem lifts_repeatLast (min : Nat) (max : Option Nat) (left : List Char) :
    Lifts around (reading.repeatLast min max >>= fun next => return (next, left))
      ((reading.under around).repeatLast min max >>= fun next => return (next, left)) := by
  rw [repeatLast_under]
  cases reading.repeatLast min max <;> rfl

theorem lifts_closeGroup (opened : reading.outer ≠ []) (left : List Char) :
    Lifts around (reading.closeGroup >>= fun next => return (next, left))
      ((reading.under around).closeGroup >>= fun next => return (next, left)) := by
  obtain ⟨group, outer, above⟩ := List.exists_cons_of_ne_nil opened
  have above' : (reading.under around).outer = group :: (outer ++ around) := by
    rw [under, above]
    rfl
  rw [closeGroup, closeGroup, above, above']
  rfl

theorem lifts_readNamedGroup : Lifts around (readNamedGroup reading chars)
    (readNamedGroup (reading.under around) chars) := by
  unfold readNamedGroup
  refine lifts_bind _ fun (name, rest) => ?_
  exact lifts_ite rfl rfl

theorem lifts_readGroup : Lifts around (readGroup reading chars) (readGroup (reading.under around) chars) := by
  unfold readGroup
  rw [under_flags]
  split
  · rfl
  · rfl
  · rfl
  · rfl
  · exact lifts_readNamedGroup
  · exact lifts_readNamedGroup
  · refine lifts_bind _ fun (list, last, rest) => ?_
    exact lifts_ite rfl (lifts_ite rfl rfl)
  · rfl

theorem lifts_closeClass {cls : OpenClass} {outer : List OpenClass} (left : List Char) :
    Lifts around (reading.closeClass cls outer >>= fun next => return (next, left))
      ((reading.under around).closeClass cls outer >>= fun next => return (next, left)) := by
  unfold closeClass
  rw [under_flags]
  cases cls.close reading.flags <;> cases outer <;> rfl

theorem lifts_stepInClass {cls : OpenClass} {outer : List OpenClass} :
    Lifts around (reading.stepInClass cls outer c chars) ((reading.under around).stepInClass cls outer c chars) := by
  unfold stepInClass
  rw [under_flags]
  dsimp only
  split
  · split
    · exact lifts_bind _ fun set => rfl
    · rfl
  · exact lifts_closeClass _
  · rfl
  · rfl
  · rfl
  · exact lifts_bind _ fun part => rfl

def Closes (reading : Reading) (c : Char) : Prop := c = ')' → reading.classes = [] → reading.outer ≠ []

theorem lifts_stepOutside (closes : c = ')' → reading.outer ≠ []) :
    Lifts around (reading.stepOutside c chars) ((reading.under around).stepOutside c chars) := by
  unfold stepOutside
  rw [under_flags]
  dsimp only
  split
  · exact lifts_readGroup
  · exact lifts_closeGroup (closes rfl) chars
  · rfl
  · rfl
  · exact lifts_repeatLast 0 (some 1) _
  · exact lifts_repeatLast 0 none _
  · exact lifts_repeatLast 1 none _
  · exact lifts_bind _ fun ((min, max), rest) => lifts_repeatLast min max _
  · exact lifts_bind _ fun expr => rfl
  · rfl
  · rfl
  · refine lifts_bind _ fun (atom, rest) => ?_
    cases atom with
    | char c octet => exact lifts_bind _ fun expr => rfl
    | set set => rfl
    | look condition => rfl
  · exact lifts_bind _ fun expr => rfl

theorem lifts_step (closes : reading.Closes c) :
    Lifts around (reading.step c chars) ((reading.under around).step c chars) := by
  rw [step, step, under_classes]
  cases none : reading.classes with
  | nil => exact lifts_stepOutside (closes · none)
  | cons cls outer => exact lifts_stepInClass

theorem closes_of_step (chars : List Char) (opened : reading.step c chars ≠ .error .unopenedGroup) :
    reading.Closes c := by
  rintro rfl classes outer
  refine opened ?_
  rw [step, classes]
  dsimp only
  rw [stepOutside]
  simp only [closeGroup, outer]
  rfl

theorem step_under (stepped : reading.step c chars = .ok (next, left)) :
    (reading.under around).step c chars = .ok (next.under around, left) := by
  have closes : reading.Closes c := closes_of_step chars (by simp [stepped])
  rw [lifts_step closes, stepped]
  rfl

theorem skip_ending_cons (visible : skip reading.flags.extended chars = c :: rest) (both : Left chars left') :
    skip (reading.under around).flags.extended left' = c :: (rest ++ ending) := by
  have ahead := both.skip reading.flags.extended
  rw [visible] at ahead
  exact ahead.eq_append (List.cons_ne_nil c rest)

theorem run_ended (read : reading.run chars = .ok final) (both : Left chars left') :
    (∀ around, (reading.under around).run left' = .ok (final.under around)) ∨
      ∀ around, (reading.under around).run left' =
        (final.under around).step ')' ['$'] >>= fun (next, left) => next.run left := by
  fun_induction run reading chars generalizing left' with
  | case1 reading chars nothing =>
    cases read
    obtain ⟨-, none | ended⟩ | ⟨c, rest, some, -⟩ := (both.skip final.flags.extended).shapes
    · exact .inl fun around => run_nil none
    · exact .inr fun around => run_cons ended
    · rw [nothing] at some
      cases some
  | case2 => cases read
  | case3 reading chars c rest visible next left stepped shorter ih =>
    obtain ⟨behind, stepped', both'⟩ := step_ending stepped
    have goesOn (around : List OpenGroup) : (reading.under around).run left' = (next.under around).run behind := by
      rw [run_cons (skip_ending_cons visible both), step_under stepped', bind_ok]
    simp only [goesOn]
    exact ih read both'

theorem step_member {cls : OpenClass} {outer : List OpenClass} (classes : reading.classes = cls :: outer)
    (split : (c = ')' ∧ rest = ['$']) ∨ (c = '$' ∧ rest = [])) : reading.step c rest =
      .ok ({ reading with classes := cls.push ⟨.range c.toNat c.toNat, 0⟩ :: outer }, rest) := by
  obtain ⟨⟨caseless, multiLine, dotAll, crlf, unicode, extended⟩, names, group, above, inside⟩ := reading
  cases classes
  obtain ⟨rfl, rfl⟩ | ⟨rfl, rfl⟩ := split
  · cases unicode <;> cases extended <;> rfl
  · cases unicode <;> cases extended <;> rfl

theorem run_dollar (read : reading.run ['$'] = .ok last) :
    last.outer = reading.outer ∧ (last.classes = [] ↔ reading.classes = []) := by
  have visible : skip reading.flags.extended ['$'] = ['$'] := by cases reading.flags.extended <;> rfl
  cases classes : reading.classes with
  | nil =>
    let condition : Look := if reading.flags.multiLine then .lineEnd reading.flags.crlf else .textEnd
    have stepped : reading.step '$' [] = .ok (reading.push (.look condition), []) := by
      rw [step, classes]
      rfl
    have none : skip (reading.push (.look condition)).flags.extended [] = [] := by
      cases (reading.push (.look condition)).flags.extended <;> rfl
    rw [run_cons visible, stepped, bind_ok] at read
    dsimp only at read
    rw [run_nil none] at read
    cases read
    exact ⟨rfl, iff_of_true classes rfl⟩
  | cons cls outer =>
    let grown : Reading := { reading with classes := cls.push ⟨.range '$'.toNat '$'.toNat, 0⟩ :: outer }
    have stepped : reading.step '$' [] = .ok (grown, []) := step_member classes (.inr ⟨rfl, rfl⟩)
    have none : skip grown.flags.extended [] = [] := by cases grown.flags.extended <;> rfl
    rw [run_cons visible, stepped, bind_ok] at read
    dsimp only at read
    rw [run_nil none] at read
    rw [← Except.ok.inj read]
    exact ⟨rfl, by simp [grown]⟩

theorem run_brace (classes : reading.classes = []) (after : skip reading.flags.extended chars = ending) :
    reading.run ('\x7b' :: chars) = .error .missingCount := by
  have visible : skip reading.flags.extended ('\x7b' :: chars) = '\x7b' :: chars := by
    cases reading.flags.extended <;> rfl
  have missing : readCount reading.flags.extended ending = .error .missingCount := by
    cases reading.flags.extended <;> rfl
  have stepped : reading.step '\x7b' chars = .error .missingCount := by
    rw [step, classes]
    simp only [stepOutside, readBounds, after, missing]
    rfl
  rw [run_cons visible, stepped]
  rfl

/-- A run that fails by itself but not before the ending has taken its bracket for something else, so that the groups
    around are left open. -/
theorem run_lost {fault : Fault} (fails : reading.run chars = .error fault) (opened : fault ≠ .unopenedGroup)
    (some : around ≠ []) (both : Left chars left') (read : (reading.under around).run left' = .ok last) :
    last.outer ≠ [] := by
  -- Both runs take the same steps up to the one that fails; behind that one there is at most the dollar sign to read.
  fun_induction run reading chars generalizing left' with
  | case1 => cases fails
  | case2 reading chars c rest visible fault' stepped =>
    cases fails
    have closes : reading.Closes c := closes_of_step rest (by simpa [stepped] using opened)
    rw [run_cons (skip_ending_cons visible both), lifts_step closes] at read
    rcases goes_step reading c rest with goes | ⟨classes, condition, -, after, -, ended, brace⟩
    · rw [stepped] at goes
      generalize reading.step c (rest ++ ending) = ended at goes read
      cases goes with
      | fails => cases read
      | takes _ value =>
        have outer : last.outer = value.outer ++ around := (run_dollar read).1
        rw [outer]
        simp [some]
    · -- What is left begins with a brace, and no count follows.
      rw [ended] at read
      let stranded : Reading := (reading.push (.look condition)).under around
      have missing : stranded.run ('\x7b' :: after) = .error .missingCount := run_brace classes brace
      have braced : stranded.run ('\x7b' :: after) = .ok last := read
      rw [missing] at braced
      cases braced
  | case3 reading chars c rest visible next left stepped shorter ih =>
    obtain ⟨behind, stepped', both'⟩ := step_ending stepped
    rw [run_cons (skip_ending_cons visible both), step_under stepped', bind_ok] at read
    exact ih fails both' read

/-- Nothing is left open. -/
def Closed (reading : Reading) : Prop := reading.classes = [] ∧ reading.outer = []

theorem not_closed_of_ending (some : around ≠ []) (opened : ¬ final.Closed)
    (read : ((final.under around).step ')' ['$'] >>= fun (next, left) => next.run left) = .ok last) :
    ¬ last.Closed := by
  rintro ⟨noClass, noGroup⟩
  cases classes : final.classes with
  | cons cls outer =>
    have stepped : (final.under around).step ')' ['$'] = .ok (_, ['$']) := step_member classes (.inl ⟨rfl, rfl⟩)
    rw [stepped, bind_ok] at read
    exact List.cons_ne_nil _ _ ((run_dollar read).2.mp noClass)
  | nil =>
    have below : final.outer ≠ [] := fun outer => opened ⟨classes, outer⟩
    obtain ⟨group, outer, above⟩ := List.exists_cons_of_ne_nil below
    let next : Reading := { final with
      flags := final.group.flagsAfter, group := group.push final.group.close
      outer := outer ++ around, classes := [] }
    have stepped : (final.under around).step ')' ['$'] = .ok (next, ['$']) := by
      simp only [step, under, classes, stepOutside, closeGroup, above, List.cons_append]
      rfl
    rw [stepped, bind_ok] at read
    have none : outer ++ around = [] := (run_dollar read).1.symm.trans noGroup
    exact some (List.append_eq_nil_iff.mp none).2

end Reading

theorem finish_cases {expr : Expr} (finished : final.finish = .ok expr) :
    final.Closed ∧ final.group.content.depth ≤ Reading.depthLimit ∧ final.group.content.expr = expr := by
  unfold Reading.finish at finished
  split at finished
  · cases finished
  · rename_i classes
    split at finished
    · cases finished
    · rename_i outer
      dsimp only at finished
      split at finished
      · cases finished
      · rename_i shallow
        exact ⟨⟨by simpa using classes, by simpa using outer⟩, by simpa using shallow, Except.ok.inj finished⟩

def keywordGroup : OpenGroup := ⟨{}, false, [], []⟩

theorem run_ending (closed : final.Closed) (base : final.group.header = ({}, false)) :
    ∃ last, ((final.under [keywordGroup]).step ')' ['$'] >>= fun (next, left) => next.run left) = .ok last ∧
      last.Closed ∧ last.group.content.expr = .seq final.group.content.expr (.look .textEnd) ∧
      final.group.content.depth ≤ last.group.content.depth := by
  obtain ⟨flags, names, ⟨flagsAfter, captures, branches, items⟩, above, inside⟩ := final
  obtain ⟨rfl, rfl⟩ := closed
  cases base
  let group : OpenGroup := ⟨{}, false, branches, items⟩
  let closed : Reading := ⟨{}, names, ⟨{}, false, [], [group.close]⟩, [], []⟩
  have visible : Pattern.skip closed.flags.extended ['$'] = '$' :: [] := rfl
  have asked : closed.step '$' [] = .ok (closed.push (.look .textEnd), []) := rfl
  refine ⟨closed.push (.look .textEnd), ?_, ⟨rfl, rfl⟩, rfl, ?_⟩
  · show closed.run ['$'] = _
    rw [Reading.run_cons visible, asked, bind_ok]
    exact Reading.run_nil rfl
  · have deeper : (closed.push (.look .textEnd)).group.content.depth =
        Nat.max (Nat.max 0 0) (group.content.depth + 1) + 1 := rfl
    have below : group.content.depth + 1 ≤ Nat.max (Nat.max 0 0) (group.content.depth + 1) := Nat.le_max_right _ _
    rw [deeper]
    show group.content.depth ≤ _
    omega

theorem run_anchored (pattern : String) : ({} : Reading).run (Keyword.anchored pattern).toList =
    (({} : Reading).under [keywordGroup]).run (pattern.toList ++ ending) := by
  have chars : (Keyword.anchored pattern).toList = '(' :: '?' :: ':' :: (pattern.toList ++ ending) := by
    simp [Keyword.anchored, ending]
  rw [chars, Reading.run_cons rfl]
  rfl

theorem base_of_run {pattern : String} (run : ({} : Reading).run pattern.toList = .ok final) (closed : final.Closed) :
    final.group.header = ({}, false) := by
  have base : final.base = ({}, false) :=
    Reading.run_invariant (fun stepped same => (Reading.base_step stepped).trans same) run rfl
  rwa [Reading.base, closed.2] at base

theorem parse_anchored {pattern : String} {alone anchored : Expr} (read : parse pattern = .ok alone)
    (whole : parse (Keyword.anchored pattern) = .ok anchored) : anchored = .seq alone (.look .textEnd) := by
  obtain ⟨final, run, finished⟩ := ok_of_bind read
  obtain ⟨last, runWhole, finishedWhole⟩ := ok_of_bind whole
  obtain ⟨closed, -, rfl⟩ := finish_cases finished
  obtain ⟨outermost, -, rfl⟩ := finish_cases finishedWhole
  rw [run_anchored] at runWhole
  rcases Reading.run_ended run (.ended _) with taken | ended
  · rw [taken] at runWhole
    cases runWhole
    simp [Reading.Closed, Reading.under] at outermost
  · obtain ⟨ended', ends, -, expr, -⟩ := run_ending closed (base_of_run run closed)
    rw [ended, ends] at runWhole
    cases runWhole
    exact expr

theorem matches_textEnd {expr : Expr} {text : List Char} {first last : Nat} (inside : first ≤ text.length) :
    (Expr.seq expr (.look .textEnd)).Matches text first last ↔ last = text.length ∧ expr.Matches text first last := by
  constructor
  · rintro ⟨middle, found, final, rfl⟩
    have reached := (expr.forward text first last inside found).2
    have beyond : text.length ≤ last := by simpa [Look.holds] using final
    exact ⟨Nat.le_antisymm reached beyond, found⟩
  · rintro ⟨rfl, found⟩
    exact ⟨text.length, found, by simp [Look.holds], rfl⟩

end Pattern

open Pattern.Reading (run_step run_nil)

theorem Keyword.parse_of_compile {pattern : String} {keyword : Keyword}
    (compiled : Keyword.compile pattern = .ok keyword) : Pattern.parse (anchored pattern) = .ok keyword.expr := by
  unfold Keyword.compile at compiled
  split at compiled
  · rename_i expr compiled'
    cases compiled
    obtain ⟨expr, parsed, small⟩ := Pattern.ok_of_bind compiled'
    dsimp only at small
    split at small
    · cases small
    · cases small
      exact parsed
  · cases compiled

theorem Keyword.accepts_iff {keyword : Keyword} {alone : Pattern.Expr} (proper : keyword.expr.Proper)
    (expr : keyword.expr = .seq alone (.look .textEnd)) (word : String) : keyword.accepts word = true ↔
      ∃ start ≤ word.toList.length, alone.Matches word.toList start word.toList.length := by
  rw [Keyword.accepts, Pattern.Expr.occurs_iff proper, expr]
  constructor
  · rintro ⟨first, last, inside, found⟩
    obtain ⟨rfl, found⟩ := (Pattern.matches_textEnd inside).mp found
    exact ⟨first, inside, found⟩
  · rintro ⟨first, inside, found⟩
    exact ⟨first, _, inside, (Pattern.matches_textEnd inside).mpr ⟨rfl, found⟩⟩

/-- A word is accepted if and only if the pattern by itself matches the rest of the word from some place on. -/
theorem Keyword.accepts_iff_matches {pattern : String} {alone : Pattern.Expr} {keyword : Keyword}
    (wellFormed : Pattern.parse pattern = .ok alone) (compiled : Keyword.compile pattern = .ok keyword)
    (word : String) : keyword.accepts word = true ↔
      ∃ start ≤ word.toList.length, alone.Matches word.toList start word.toList.length := by
  have whole : Pattern.parse (anchored pattern) = .ok keyword.expr := Keyword.parse_of_compile compiled
  have expr : keyword.expr = .seq alone (.look .textEnd) := Pattern.parse_anchored wellFormed whole
  exact Keyword.accepts_iff (Pattern.parse_proper whole) expr word

theorem Keyword.accepts_iff_matches_line :
    let alone : Pattern.Expr := .alt (.seq .empty (.seq (.look (.lineStart false)) (.char 'b'))) (.char 'a')
    let keyword : Keyword := ⟨"(?m)^b|a", .seq alone (.look .textEnd)⟩
    Pattern.parse "(?m)^b|a" = .ok alone ∧ Keyword.compile "(?m)^b|a" = .ok keyword ∧
      keyword.accepts "a\nb" = true ∧ keyword.accepts "a\nbc" = false := by
  intro alone keyword
  have parsed : Pattern.parse "(?m)^b|a" = .ok alone :=
    Pattern.parse_of_run (run_step rfl rfl <| run_step rfl rfl <| run_step rfl rfl <| run_step rfl rfl <|
      run_step rfl rfl <| run_nil rfl) rfl
  have whole : Pattern.parse (anchored "(?m)^b|a") = .ok keyword.expr :=
    Pattern.parse_of_run (run_step rfl rfl <| run_step rfl rfl <| run_step rfl rfl <| run_step rfl rfl <|
      run_step rfl rfl <| run_step rfl rfl <| run_step rfl rfl <| run_step rfl rfl <| run_nil rfl) rfl
  have small : ¬ keyword.expr.cost > Pattern.costLimit := by decide
  have compiled : Keyword.compile "(?m)^b|a" = .ok keyword := by
    rw [Keyword.compile, Pattern.compile, whole, Pattern.bind_ok]
    dsimp only
    rw [if_neg small]
    rfl
  refine ⟨parsed, compiled, ?_, ?_⟩
  · refine (Keyword.accepts_iff_matches parsed compiled "a\nb").mpr ⟨2, by decide, .inl ⟨2, rfl, 2, ⟨?_, rfl⟩, ?_⟩⟩
    · decide
    · exact ⟨by decide, by decide⟩
  · rw [← Bool.not_eq_true, Keyword.accepts_iff_matches parsed compiled]
    -- Neither letter is the last one.
    rintro ⟨start, -, ⟨_, -, place, -, same, final⟩ | ⟨same, final⟩⟩
    · obtain rfl : place = 3 := by simpa using final.symm
      exact absurd same (by decide)
    · obtain rfl : start = 3 := by simpa using final.symm
      exact absurd same (by decide)

end TagMenu
