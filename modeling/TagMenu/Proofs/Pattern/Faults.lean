import Mathlib
import TagMenu.Pattern.Parse

namespace TagMenu.Pattern

variable {extended : Bool} {chars : List Char} {flags : Flags} {reading : Reading}

/-- Faults of patterns in which nothing is wrong but their size. -/
def Fault.isLimit : Fault → Bool
  | nestedTooDeep | tooLarge => true
  | _ => false

def Unlimited {α : Type} (result : Except Fault α) : Prop := ∀ fault, result = .error fault → fault.isLimit = false

namespace Unlimited

variable {α β : Type}

theorem ok (value : α) : Unlimited (.ok value) := by
  rintro _ ⟨⟩

theorem error {fault : Fault} (plain : fault.isLimit = false) : Unlimited (.error fault : Except Fault α) := by
  rintro _ ⟨⟩
  exact plain

theorem bind {result : Except Fault α} {next : α → Except Fault β} (first : Unlimited result)
    (after : ∀ value, Unlimited (next value)) : Unlimited (result >>= next) := by
  cases result with
  | error fault =>
    rintro _ ⟨⟩
    exact first fault rfl
  | ok value => exact after value

theorem map {result : Except Fault α} (first : Unlimited result) (meaning : α → β) :
    Unlimited (result >>= fun value => return meaning value) :=
  first.bind fun value => .ok (meaning value)

end Unlimited

theorem readCount_unlimited : Unlimited (readCount extended chars) := by
  unfold readCount
  dsimp only
  split
  · exact .error rfl
  · split
    · exact .ok _
    · exact .error rfl

theorem readBounds_unlimited : Unlimited (readBounds extended chars) := by
  refine readCount_unlimited.bind ?_
  rintro ⟨min, rest⟩
  dsimp only
  split
  · exact .ok _
  · split
    · exact .ok _
    · refine readCount_unlimited.bind ?_
      rintro ⟨max, rest⟩
      dsimp only
      split
      · split
        · exact .ok _
        · exact .error rfl
      · exact .error rfl
  · exact .error rfl

theorem characterOf_unlimited (digits : List Nat) : Unlimited (characterOf digits) := by
  unfold characterOf
  split
  · exact .ok _
  · exact .error rfl

theorem readDigits_unlimited (count : Nat) : Unlimited (readDigits extended count chars) := by
  induction count generalizing chars with
  | zero => exact .ok _
  | succ count ih =>
    cases chars with
    | nil => exact .error rfl
    | cons c rest =>
      rw [readDigits]
      split
      · exact .error rfl
      · exact ih.map _

theorem readHex_unlimited (count : Nat) : Unlimited (readHex extended count chars) := by
  unfold readHex
  split
  · split
    · split
      · exact .error rfl
      · exact .error rfl
      · exact (characterOf_unlimited _).map _
    · exact .error rfl
  · exact (readDigits_unlimited count).bind fun found => (characterOf_unlimited found.1).map _

theorem finishSet_unlimited (flags : Flags) (negated : Bool) (set : Charset) :
    Unlimited (finishSet flags negated set) := by
  unfold finishSet
  dsimp only
  split
  · exact .error rfl
  · exact .ok _

theorem readPropertyText_unlimited : Unlimited (readPropertyText extended chars) := by
  unfold readPropertyText
  split
  · exact .error rfl
  · split
    · exact .ok _
    · exact .error rfl
  · exact .error rfl
  · exact .ok _

theorem readProperty_unlimited (negated : Bool) : Unlimited (readProperty flags negated chars) := by
  refine readPropertyText_unlimited.bind ?_
  rintro ⟨text, rest⟩
  dsimp only
  split
  · exact .error rfl
  · split
    · exact .error rfl
    · exact (finishSet_unlimited flags _ _).map _

theorem readWordEdge_unlimited : Unlimited (readWordEdge extended chars) := by
  unfold readWordEdge
  split
  · split
    · exact .error rfl
    · split
      · split
        · split
          · exact .ok _
          · exact .error rfl
        · exact .error rfl
      · exact .ok _
  · exact .ok _

theorem readEscape_unlimited : Unlimited (readEscape flags chars) := by
  unfold readEscape
  split
  · exact .error rfl
  · dsimp only
    split
    · exact (readHex_unlimited 2).map _
    · exact (readHex_unlimited 4).map _
    · exact (readHex_unlimited 8).map _
    · exact (readProperty_unlimited false).map _
    · exact (readProperty_unlimited true).map _
    · exact .ok _
    · exact .ok _
    · exact .ok _
    · exact .ok _
    · exact .ok _
    · exact readWordEdge_unlimited.map _
    · split
      · split
        · exact .error rfl
        · exact .ok _
      · split
        · exact .ok _
        · split
          · exact .error rfl
          · split
            · exact .ok _
            · exact .error rfl

theorem flagList_unlimited (list : FlagList) : Unlimited (list.read chars) := by
  induction chars generalizing list with
  | nil => exact .error rfl
  | cons c rest ih =>
    rw [FlagList.read]
    split
    · split
      · exact .error rfl
      · exact .ok _
    · have pushed : Unlimited (list.push c) := by
        unfold FlagList.push
        split
        · split
          · exact .error rfl
          · exact .ok _
        · split
          · exact .error rfl
          · split
            · exact .error rfl
            · exact .ok _
      exact pushed.bind ih

theorem readNamedGroup_unlimited : Unlimited (readNamedGroup reading chars) := by
  have named : Unlimited (readGroupName chars) := by
    unfold readGroupName
    dsimp only
    split
    · exact .error rfl
    · split
      · exact .ok _
      · exact .error rfl
  refine named.bind ?_
  rintro ⟨name, rest⟩
  dsimp only
  split
  · exact .error rfl
  · exact .ok _

theorem readGroup_unlimited : Unlimited (readGroup reading chars) := by
  unfold readGroup
  split
  · exact .error rfl
  · exact .error rfl
  · exact .error rfl
  · exact .error rfl
  · exact readNamedGroup_unlimited
  · exact readNamedGroup_unlimited
  · refine (flagList_unlimited {}).bind ?_
    rintro ⟨list, last, rest⟩
    dsimp only
    split
    · exact .ok _
    · split
      · exact .error rfl
      · exact .ok _
  · exact .ok _

theorem closeGroup_unlimited : Unlimited reading.closeGroup := by
  unfold Reading.closeGroup
  split
  · exact .error rfl
  · exact .ok _

theorem repeatLast_unlimited (min : Nat) (max : Option Nat) : Unlimited (reading.repeatLast min max) := by
  have repeated : Unlimited (reading.group.repeatLast min max) := by
    unfold OpenGroup.repeatLast
    split
    · exact .error rfl
    · split
      · exact .ok _
      · exact .error rfl
  exact repeated.map _

theorem memberChar_unlimited (c : Char) : Unlimited (memberChar flags c) := by
  unfold memberChar
  split
  · exact .error rfl
  · exact .ok _

theorem readMember_unlimited (c : Char) : Unlimited (readMember flags c chars) := by
  unfold readMember
  split
  · exact readEscape_unlimited
  · exact .ok _

theorem readMembers_unlimited (c : Char) : Unlimited (readMembers flags c chars) := by
  refine (readMember_unlimited c).bind ?_
  rintro ⟨atom, rest⟩
  dsimp only
  split
  · exact .error rfl
  · refine (readMember_unlimited _).bind ?_
    rintro ⟨last, rest⟩
    dsimp only
    split
    · split
      · exact .error rfl
      · exact (memberChar_unlimited _).bind fun low => (memberChar_unlimited _).map _
    · exact .error rfl
  · split
    · exact (memberChar_unlimited _).map _
    · exact .ok _
    · exact .error rfl

theorem closeClass_unlimited (cls : OpenClass) (outer : List OpenClass) : Unlimited (reading.closeClass cls outer) := by
  have closed : Unlimited (cls.close reading.flags) := (finishSet_unlimited _ _ _).map _
  refine closed.bind fun part => ?_
  cases outer <;> exact .ok _

theorem stepInClass_unlimited (cls : OpenClass) (outer : List OpenClass) (c : Char) :
    Unlimited (reading.stepInClass cls outer c chars) := by
  unfold Reading.stepInClass
  dsimp only
  split
  · split
    · exact (finishSet_unlimited _ _ _).map _
    · exact .ok _
  · exact (closeClass_unlimited cls outer).map _
  · exact .ok _
  · exact .ok _
  · exact .ok _
  · exact (readMembers_unlimited _).map _

theorem charExpr_unlimited (c : Char) (octet : Bool) : Unlimited (Reading.charExpr flags c octet) := by
  unfold Reading.charExpr
  split
  · exact .error rfl
  · split <;> exact .ok _

theorem dotExpr_unlimited : Unlimited (Reading.dotExpr flags) := by
  unfold Reading.dotExpr
  split
  · exact .error rfl
  · split
    · exact .ok _
    · split <;> exact .ok _

theorem stepOutside_unlimited (c : Char) : Unlimited (reading.stepOutside c chars) := by
  unfold Reading.stepOutside
  dsimp only
  split
  · exact readGroup_unlimited
  · exact closeGroup_unlimited.map _
  · exact .ok _
  · exact .ok _
  · exact (repeatLast_unlimited 0 (some 1)).map _
  · exact (repeatLast_unlimited 0 none).map _
  · exact (repeatLast_unlimited 1 none).map _
  · exact readBounds_unlimited.bind fun bounds => (repeatLast_unlimited bounds.1.1 bounds.1.2).map _
  · exact dotExpr_unlimited.map _
  · exact .ok _
  · exact .ok _
  · refine readEscape_unlimited.bind ?_
    rintro ⟨atom, rest⟩
    cases atom with
    | char c octet => exact (charExpr_unlimited c octet).map _
    | set set => exact .ok _
    | look condition => exact .ok _
  · exact (charExpr_unlimited _ false).map _

theorem step_unlimited (c : Char) : Unlimited (reading.step c chars) := by
  unfold Reading.step
  split
  · exact stepOutside_unlimited c
  · exact stepInClass_unlimited _ _ c

theorem run_unlimited : Unlimited (reading.run chars) := by
  fun_induction Reading.run reading chars with
  | case1 reading chars nothing => exact .ok reading
  | case2 reading chars c rest visible fault stepped => exact .error (step_unlimited c fault stepped)
  | case3 reading chars c rest visible next left stepped shorter ih => exact ih

end TagMenu.Pattern
