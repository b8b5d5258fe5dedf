import Mathlib
import TagMenu.Proofs.Pattern.Enclosed
import TagMenu.Proofs.Pattern.Faults

namespace TagMenu

namespace Pattern

variable {pattern : String}

/-- Nothing is wrong with a pattern but perhaps its size. -/
def WellFormed (pattern : String) : Prop := ∀ fault, compile pattern = .error fault → fault.isLimit = true

def Complete (chars : List Char) : Prop := ∃ final, ({} : Reading).run chars = .ok final ∧ final.Closed

theorem finish_of_closed {final : Reading} (closed : final.Closed) : final.finish =
    if final.group.content.depth > Reading.depthLimit then .error .nestedTooDeep
    else .ok final.group.content.expr := by
  simp [Reading.finish, closed.1, closed.2]

theorem finish_of_not_closed {final : Reading} (opened : ¬ final.Closed) :
    ∃ fault, final.finish = .error fault ∧ fault.isLimit = false := by
  by_cases classes : final.classes = []
  · have outer : final.outer ≠ [] := fun outer => opened ⟨classes, outer⟩
    exact ⟨.unclosedGroup, by simp [Reading.finish, classes, outer], rfl⟩
  · exact ⟨.unclosedClass, by simp [Reading.finish, classes], rfl⟩

theorem wellFormed_iff : WellFormed pattern ↔ Complete pattern.toList := by
  constructor
  · intro wellFormed
    cases read : ({} : Reading).run pattern.toList with
    | error fault =>
      have failed : compile pattern = .error fault := by
        rw [compile, parse, read]
        rfl
      have written := run_unlimited fault read
      rw [wellFormed fault failed] at written
      cases written
    | ok final =>
      by_contra opened
      obtain ⟨fault, finished, written⟩ := finish_of_not_closed fun closed => opened ⟨final, read, closed⟩
      have failed : compile pattern = .error fault := by
        rw [compile, parse, read, bind_ok, finished]
        rfl
      rw [wellFormed fault failed] at written
      cases written
  · rintro ⟨final, read, closed⟩ fault failed
    rw [compile, parse, read, bind_ok, finish_of_closed closed] at failed
    split at failed
    · cases failed
      rfl
    · rw [bind_ok] at failed
      dsimp only at failed
      split at failed
      · cases failed
        rfl
      · cases failed

theorem Reading.closed_under {reading : Reading} {around : List OpenGroup} :
    (reading.under around).Closed ↔ reading.Closed ∧ around = [] := by
  simp [Closed, under, and_assoc]

/-- Before the ending a pattern is closed if it is by itself and does not end in a comment. -/
theorem complete_anchored_iff (opened : ({} : Reading).run pattern.toList ≠ .error .unopenedGroup) :
    Complete (Keyword.anchored pattern).toList ↔
      Complete pattern.toList ∧ ¬ Complete (pattern.toList ++ ending) := by
  have bare : ({} : Reading).run (pattern.toList ++ ending) =
      (({} : Reading).under []).run (pattern.toList ++ ending) := rfl
  have none : [keywordGroup] ≠ [] := List.cons_ne_nil _ _
  unfold Complete
  rw [run_anchored, bare]
  cases read : ({} : Reading).run pattern.toList with
  | error fault =>
    have fault : fault ≠ .unopenedGroup := by
      rintro rfl
      exact opened read
    have lost : ¬ ∃ last, (({} : Reading).under [keywordGroup]).run (pattern.toList ++ ending) = .ok last ∧
        last.Closed := by
      rintro ⟨last, whole, closed⟩
      exact Reading.run_lost read fault none (.ended _) whole closed.2
    simp [lost]
  | ok final =>
    rcases Reading.run_ended read (.ended _) with taken | ended
    · -- The ending is in a comment: the group stays open, and without it nothing has changed.
      simp only [taken]
      simp [Reading.closed_under]
    · by_cases closed : final.Closed
      · obtain ⟨last, ends, closed', -⟩ := run_ending closed (base_of_run read closed)
        have unopened : (final.under []).step ')' ['$'] = .error .unopenedGroup := by
          simp only [Reading.under_nil, Reading.step, closed.1, Reading.stepOutside, Reading.closeGroup, closed.2]
          rfl
        have accepted : ∃ last, (({} : Reading).under [keywordGroup]).run (pattern.toList ++ ending) = .ok last ∧
            last.Closed := ⟨last, (ended _).trans ends, closed'⟩
        have refused : ¬ ∃ last, (({} : Reading).under []).run (pattern.toList ++ ending) = .ok last ∧ last.Closed := by
          rintro ⟨last, whole, -⟩
          rw [ended, unopened] at whole
          cases whole
        exact iff_of_true accepted ⟨⟨final, rfl, closed⟩, refused⟩
      · refine iff_of_false ?_ ?_
        · rintro ⟨last, whole, closed'⟩
          rw [ended] at whole
          exact Reading.not_closed_of_ending none closed whole closed'
        · rintro ⟨⟨_, ⟨⟩, closed'⟩, -⟩
          exact closed closed'

theorem parse_of_anchored {anchored : Expr} (opened : ({} : Reading).run pattern.toList ≠ .error .unopenedGroup)
    (whole : parse (Keyword.anchored pattern) = .ok anchored) : ∃ alone, parse pattern = .ok alone := by
  obtain ⟨last, read, finished⟩ := ok_of_bind whole
  obtain ⟨closed, shallow, -⟩ := finish_cases finished
  obtain ⟨⟨final, alone, closed'⟩, -⟩ := (complete_anchored_iff opened).mp ⟨last, read, closed⟩
  rw [run_anchored] at read
  have deeper : final.group.content.depth ≤ last.group.content.depth := by
    rcases Reading.run_ended alone (.ended _) with taken | ended
    · rw [taken] at read
      cases read
      exact le_rfl
    · obtain ⟨last', ends, -, -, deeper⟩ := run_ending closed' (base_of_run alone closed')
      rw [ended, ends] at read
      cases read
      exact deeper
  refine ⟨final.group.content.expr, parse_of_run alone ?_⟩
  rw [finish_of_closed closed', if_neg (by omega)]

end Pattern

open Pattern (WellFormed)

/-- Apart from a pattern that closes a group it has not opened, a keyword is accepted if and only if the pattern is
    well-formed by itself and does not end in a comment, so that a bracket behind it would close nothing; and then it
    matches only up to the end of a word. -/
theorem Keyword.accepted_iff_wellFormed {pattern : String} (opened : Pattern.parse pattern ≠ .error .unopenedGroup) :
    ((∀ error, Keyword.compile pattern = .error error → error.fault.isLimit = true) ↔
      WellFormed pattern ∧ ¬ WellFormed (pattern ++ ")$")) ∧
    ∀ keyword, Keyword.compile pattern = .ok keyword → ∃ alone, Pattern.parse pattern = .ok alone ∧
      ∀ word, keyword.accepts word = true ↔
        ∃ start ≤ word.toList.length, alone.Matches word.toList start word.toList.length := by
  have read : ({} : Pattern.Reading).run pattern.toList ≠ .error .unopenedGroup := by
    intro failed
    rw [Pattern.parse, failed] at opened
    exact opened rfl
  constructor
  · have whole : (∀ error, Keyword.compile pattern = .error error → error.fault.isLimit = true) ↔
        WellFormed (anchored pattern) := by
      unfold Keyword.compile WellFormed
      cases Pattern.compile (anchored pattern) <;> simp
    have behind : (pattern ++ ")$").toList = pattern.toList ++ Pattern.ending := by simp [Pattern.ending]
    rw [whole, Pattern.wellFormed_iff, Pattern.wellFormed_iff, Pattern.wellFormed_iff, behind]
    exact Pattern.complete_anchored_iff read
  · intro keyword compiled
    have whole : Pattern.parse (anchored pattern) = .ok keyword.expr := Keyword.parse_of_compile compiled
    obtain ⟨alone, parsed⟩ := Pattern.parse_of_anchored read whole
    have expr : keyword.expr = .seq alone (.look .textEnd) := Pattern.parse_anchored parsed whole
    exact ⟨alone, parsed, Keyword.accepts_iff (Pattern.parse_proper whole) expr⟩

theorem Keyword.accepted_iff_wellFormed_comment :
    let keyword : Keyword := ⟨"(?x)a#\n|b", .seq (.alt (.seq .empty (.char 'a')) (.char 'b')) (.look .textEnd)⟩
    Pattern.parse "(?x)a#\n|b" ≠ .error .unopenedGroup ∧
      (∀ error, Keyword.compile "(?x)a#\n|b" = .error error → error.fault.isLimit = true) ∧
      Keyword.compile "(?x)a#\n|b" = .ok keyword ∧ keyword.accepts "xb" = true ∧ keyword.accepts "bx" = false := by
  intro keyword
  let expr : Pattern.Expr := .alt (.seq .empty (.char 'a')) (.char 'b')
  have parsed : Pattern.parse "(?x)a#\n|b" = .ok expr := by cbv
  have alone : Pattern.compile "(?x)a#\n|b" = .ok expr := by cbv
  have behind : Pattern.compile ("(?x)a#\n|b" ++ ")$") = .error .unopenedGroup := by cbv
  have compiled : Keyword.compile "(?x)a#\n|b" = .ok keyword := by cbv
  have opened : Pattern.parse "(?x)a#\n|b" ≠ .error .unopenedGroup := by simp [parsed]
  obtain ⟨accepted, matching⟩ := Keyword.accepted_iff_wellFormed opened
  have wellFormed : WellFormed "(?x)a#\n|b" := by
    intro fault failed
    rw [alone] at failed
    cases failed
  have outside : ¬ WellFormed ("(?x)a#\n|b" ++ ")$") := fun wellFormed => by
    cases wellFormed .unopenedGroup behind
  obtain ⟨alone, parsed', ends⟩ := matching keyword compiled
  obtain rfl : expr = alone := Except.ok.inj (parsed.symm.trans parsed')
  refine ⟨opened, accepted.mpr ⟨wellFormed, outside⟩, compiled, ?_, ?_⟩
  · exact (ends "xb").mpr ⟨1, by decide, .inr ⟨by decide, by decide⟩⟩
  · rw [← Bool.not_eq_true, ends]
    -- Neither letter is the last one.
    rintro ⟨start, -, ⟨middle, -, same, final⟩ | ⟨same, final⟩⟩
    · obtain rfl : middle = 1 := by simpa using final.symm
      exact absurd same (by decide)
    · obtain rfl : start = 1 := by simpa using final.symm
      exact absurd same (by decide)

/-- A bracket that closes the group around the keyword leaves the alternative in front of it without an end, and a
    comment takes the ending of a pattern that is well-formed. -/
theorem Keyword.bracket_escapes_ending :
    (¬ WellFormed "a)|(?:b" ∧ ∃ keyword, Keyword.compile "a)|(?:b" = .ok keyword ∧ keyword.accepts "ax" = true ∧
      ∀ start, ¬ keyword.expr.Matches "ax".toList start 2) ∧
    WellFormed "(?x)a#" ∧ Keyword.compile "(?x)a#" = .error ⟨"(?x)a#", .unclosedGroup⟩ := by
  have alone : Pattern.compile "a)|(?:b" = .error .unopenedGroup := by cbv
  have commented : Pattern.compile "(?x)a#" = .ok (.seq .empty (.char 'a')) := by cbv
  let keyword : Keyword := ⟨"a)|(?:b", .alt (.char 'a') (.seq (.char 'b') (.look .textEnd))⟩
  have compiled : Keyword.compile "a)|(?:b" = .ok keyword := by cbv
  refine ⟨⟨?_, keyword, compiled, by cbv, ?_⟩, ?_, by cbv⟩
  · intro wellFormed
    cases wellFormed .unopenedGroup alone
  · rintro start (⟨same, last⟩ | ⟨middle, ⟨same, -⟩, -⟩)
    · obtain rfl : start = 1 := by simpa using last.symm
      exact absurd same (by decide)
    · have found : 'b' ∈ "ax".toList := List.mem_of_getElem? same
      exact absurd found (by decide)
  · intro fault failed
    rw [commented] at failed
    cases failed

end TagMenu
