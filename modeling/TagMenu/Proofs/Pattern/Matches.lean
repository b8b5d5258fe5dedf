import Mathlib
import TagMenu.Pattern.Motion

namespace TagMenu.Pattern

variable {text : List Char} {expr : Expr} {first last : Nat} {relation : Nat → Nat → Prop} {step : Nat → Nat}

def Rounds (relation : Nat → Nat → Prop) : Nat → Nat → Nat → Prop
  | 0, first, last => last = first
  | rounds + 1, first, last => ∃ middle, relation first middle ∧ Rounds relation rounds middle last

def charBefore (text : List Char) : Nat → Option Char
  | 0 => none
  | place + 1 => text[place]?

/-- An expression matches the part of a text between two places. -/
def Expr.Matches (text : List Char) : Expr → Nat → Nat → Prop
  | .empty, first, last => last = first
  | .char c, first, last => text[first]? = some c ∧ last = first + 1
  | .set chars, first, last => (∃ c, text[first]? = some c ∧ chars.contains c = true) ∧ last = first + 1
  | .look condition, first, last => condition.holds (charBefore text first) text[first]? = true ∧ last = first
  | .seq before after, first, last => ∃ middle, before.Matches text first middle ∧ after.Matches text middle last
  | .alt left right, first, last => left.Matches text first last ∨ right.Matches text first last
  | .iterate body min max, first, last =>
    ∃ rounds, min ≤ rounds ∧ (∀ most ∈ max, rounds ≤ most) ∧ Rounds (body.Matches text) rounds first last
  | .group body, first, last => body.Matches text first last

/-- No iteration asks for more rounds than it allows. -/
def Expr.Proper : Expr → Prop
  | .empty | .char _ | .set _ | .look _ => True
  | .seq first second => first.Proper ∧ second.Proper
  | .alt left right => left.Proper ∧ right.Proper
  | .iterate body min max => body.Proper ∧ ∀ most ∈ max, min ≤ most
  | .group body => body.Proper

def Forward (length : Nat) (relation : Nat → Nat → Prop) : Prop :=
  ∀ first last, first ≤ length → relation first last → first ≤ last ∧ last ≤ length

theorem rounds_add (before after : Nat) : Rounds relation (before + after) first last ↔
    ∃ middle, Rounds relation before first middle ∧ Rounds relation after middle last := by
  induction before generalizing first with
  | zero => simp [Rounds]
  | succ before ih =>
    rw [Nat.succ_add]
    simp only [Rounds, ih]
    constructor
    · rintro ⟨next, step, middle, rest, final⟩
      exact ⟨middle, ⟨next, step, rest⟩, final⟩
    · rintro ⟨middle, ⟨next, step, rest⟩, final⟩
      exact ⟨next, step, middle, rest, final⟩

theorem Forward.rounds {length : Nat} (forward : Forward length relation) (rounds : Nat) :
    Forward length (Rounds relation rounds) := by
  induction rounds with
  | zero => rintro first last inside rfl; exact ⟨le_rfl, inside⟩
  | succ rounds ih =>
    rintro first last inside ⟨middle, step, rest⟩
    have one := forward first middle inside step
    have others := ih middle last one.2 rest
    exact ⟨one.1.trans others.1, others.2⟩

theorem Forward.shorten {length rounds : Nat} (forward : Forward length relation) (inside : first ≤ length)
    (found : Rounds relation rounds first last) : ∃ few, few ≤ last - first ∧ Rounds relation few first last := by
  induction rounds generalizing first with
  | zero => exact ⟨0, Nat.zero_le _, found⟩
  | succ rounds ih =>
    obtain ⟨middle, step, rest⟩ := found
    have one := forward first middle inside step
    have others := forward.rounds rounds middle last one.2 rest
    obtain ⟨few, short, fewer⟩ := ih one.2 rest
    rcases one.1.eq_or_lt with rfl | farther
    · exact ⟨few, short, fewer⟩
    · exact ⟨few + 1, by omega, middle, step, fewer⟩

theorem rounds_or_stay (most : Nat) : Rounds (fun first last => last = first ∨ relation first last) most first last ↔
    ∃ rounds ≤ most, Rounds relation rounds first last := by
  induction most generalizing first with
  | zero => simp [Rounds]
  | succ most ih =>
    simp only [Rounds, ih]
    constructor
    · rintro ⟨middle, rfl | step, rounds, few, rest⟩
      · exact ⟨rounds, Nat.le_succ_of_le few, rest⟩
      · exact ⟨rounds + 1, Nat.succ_le_succ few, middle, step, rest⟩
    · rintro ⟨rounds, few, rest⟩
      cases rounds with
      | zero => exact ⟨first, .inl rfl, 0, Nat.zero_le _, rest⟩
      | succ rounds =>
        obtain ⟨middle, step, rest⟩ := rest
        exact ⟨middle, .inr step, rounds, Nat.le_of_succ_le_succ few, rest⟩

theorem Expr.forward (text : List Char) (expr : Expr) : Forward text.length (expr.Matches text) := by
  intro first last inside found
  induction expr generalizing first last with
  | empty =>
    cases found
    exact ⟨le_rfl, inside⟩
  | char c =>
    obtain ⟨here, rfl⟩ := found
    exact ⟨Nat.le_succ _, (List.getElem?_eq_some_iff.mp here).1⟩
  | set set =>
    obtain ⟨⟨c, here, -⟩, rfl⟩ := found
    exact ⟨Nat.le_succ _, (List.getElem?_eq_some_iff.mp here).1⟩
  | look condition =>
    obtain ⟨-, rfl⟩ := found
    exact ⟨le_rfl, inside⟩
  | seq before after ihBefore ihAfter =>
    obtain ⟨middle, one, two⟩ := found
    have one := ihBefore first middle inside one
    have two := ihAfter middle last one.2 two
    exact ⟨one.1.trans two.1, two.2⟩
  | alt left right ihLeft ihRight =>
    rcases found with found | found
    · exact ihLeft first last inside found
    · exact ihRight first last inside found
  | iterate body min max ih =>
    obtain ⟨rounds, -, -, found⟩ := found
    exact Forward.rounds ih rounds first last inside found
  | group body ih => exact ih first last inside found

namespace Motion

theorem testBit_places (test : Option Char → Option Char → Bool) (before : Option Char) (text : List Char)
    (place : Nat) : (places test before text).testBit place =
      (decide (place ≤ text.length) && test (if place = 0 then before else charBefore text place) text[place]?) := by
  induction text generalizing before place with
  | nil =>
    cases place with
    | zero => cases met : test before none <;> simp [places, met]
    | succ place => cases met : test before none <;> simp [places, met, Nat.testBit_succ]
  | cons c rest ih =>
    cases place with
    | zero => cases met : test before (some c) <;> simp [places, met, Nat.testBit_zero]
    | succ place =>
      have half : ((test before (some c)).toNat + 2 * places test (some c) rest) / 2 = places test (some c) rest := by
        have bound := Bool.toNat_le (test before (some c))
        omega
      rw [places, Nat.testBit_succ, half, ih]
      cases place <;> simp [charBefore]

theorem exists_testBit {places : Nat} : places ≠ 0 ↔ ∃ place, places.testBit place = true := by
  constructor
  · intro some
    obtain ⟨place, differs⟩ := Nat.exists_testBit_of_ne_zero some
    exact ⟨place, differs⟩
  · rintro ⟨place, member⟩ rfl
    simp at member

theorem testBit_everywhere (length place : Nat) : (everywhere length).testBit place = decide (place ≤ length) := by
  rw [everywhere]
  show (2 ^ (length + 1) - 1).testBit place = _
  rw [Nat.testBit_two_pow_sub_one, decide_eq_decide]
  exact Nat.lt_succ_iff

def Follows (length : Nat) (step : Nat → Nat) (relation : Nat → Nat → Prop) : Prop :=
  ∀ starts, (∀ place, starts.testBit place = true → place ≤ length) → ∀ last,
    (step starts).testBit last = true ↔ ∃ first, starts.testBit first = true ∧ relation first last

theorem times_eq (step : Nat → Nat) (count starts : Nat) : times step count starts = step^[count] starts := by
  fun_induction times step count starts with
  | case1 => rfl
  | case2 starts count next fixed => rw [Function.iterate_fixed fixed]
  | case3 starts count next changed ih => rw [ih, Function.iterate_succ_apply]

theorem upTo_eq (step : Nat → Nat) (count starts : Nat) :
    upTo step count starts = (fun starts => starts ||| step starts)^[count] starts := by
  fun_induction upTo step count starts with
  | case1 => rfl
  | case2 starts count next fixed => rw [Function.iterate_fixed (f := fun starts => starts ||| step starts) fixed]
  | case3 starts count next changed ih => rw [ih, Function.iterate_succ_apply]

namespace Follows

variable {length : Nat}

theorem inside (follows : Follows length step relation) (forward : Forward length relation) {starts : Nat}
    (within : ∀ place, starts.testBit place = true → place ≤ length) :
    ∀ place, (step starts).testBit place = true → place ≤ length := by
  intro place member
  obtain ⟨first, start, moved⟩ := (follows starts within place).mp member
  exact (forward first place (within first start) moved).2

theorem comp {next : Nat → Nat} {after : Nat → Nat → Prop} (follows : Follows length step relation)
    (forward : Forward length relation) (further : Follows length next after) :
    Follows length (fun starts => next (step starts)) fun first last =>
      ∃ middle, relation first middle ∧ after middle last := by
  intro starts within last
  rw [further _ (follows.inside forward within) last]
  simp only [follows starts within]
  constructor
  · rintro ⟨middle, ⟨first, start, one⟩, two⟩
    exact ⟨first, start, middle, one, two⟩
  · rintro ⟨first, start, middle, one, two⟩
    exact ⟨middle, ⟨first, start, one⟩, two⟩

theorem stay : Follows length (fun starts => starts) fun first last => last = first := by
  intro starts within last
  simp

theorem or {other : Nat → Nat} {also : Nat → Nat → Prop} (left : Follows length step relation)
    (right : Follows length other also) :
    Follows length (fun starts => step starts ||| other starts) fun first last =>
      relation first last ∨ also first last := by
  intro starts within last
  rw [Nat.testBit_or, Bool.or_eq_true, left starts within, right starts within]
  simp only [and_or_left, exists_or]

theorem iterate (follows : Follows length step relation) (forward : Forward length relation) (count : Nat) :
    Follows length step^[count] (Rounds relation count) := by
  induction count with
  | zero => exact stay
  | succ count ih => exact follows.comp forward ih

theorem times (follows : Follows length step relation) (forward : Forward length relation) (count : Nat) :
    Follows length (Motion.times step count) (Rounds relation count) :=
  funext (times_eq step count) ▸ follows.iterate forward count

theorem upTo (follows : Follows length step relation) (forward : Forward length relation) (most : Nat) :
    Follows length (Motion.upTo step most) fun first last => ∃ rounds ≤ most, Rounds relation rounds first last := by
  have wider : Forward length fun first last => last = first ∨ relation first last := by
    rintro first last inside (rfl | moved)
    · exact ⟨le_rfl, inside⟩
    · exact forward first last inside moved
  have same : (fun first last => ∃ rounds ≤ most, Rounds relation rounds first last) =
      Rounds (fun first last => last = first ∨ relation first last) most :=
    funext₂ fun first last => propext (rounds_or_stay most).symm
  rw [funext (upTo_eq step most), same]
  exact (stay.or follows).iterate wider most

end Follows

theorem follows_advance (accepts : Char → Bool) : Follows text.length (advance text accepts).ends
    fun first last => (∃ c, text[first]? = some c ∧ accepts c = true) ∧ last = first + 1 := by
  intro starts within last
  rw [advance, Nat.testBit_shiftLeft, Nat.testBit_and, testBit_places]
  constructor
  · intro member
    simp only [Bool.and_eq_true, decide_eq_true_eq, Option.any_eq_true] at member
    obtain ⟨positive, start, -, accepted⟩ := member
    exact ⟨last - 1, start, accepted, by omega⟩
  · rintro ⟨first, start, accepted, rfl⟩
    simpa [start, within first start, Option.any_eq_true] using accepted

theorem follows_stay (condition : Look) : Follows text.length (Motion.stay text condition).ends
    fun first last => condition.holds (charBefore text first) text[first]? = true ∧ last = first := by
  intro starts within last
  have before : (if last = 0 then none else charBefore text last) = charBefore text last := by cases last <;> rfl
  rw [Motion.stay, Nat.testBit_and, testBit_places, before]
  constructor
  · intro member
    simp only [Bool.and_eq_true] at member
    exact ⟨last, member.1, member.2.2, rfl⟩
  · rintro ⟨first, start, met, rfl⟩
    simp [start, within last start, met]

theorem follows_iterate (follows : Follows text.length step relation) (forward : Forward text.length relation)
    {min : Nat} {max : Option Nat} (proper : ∀ most ∈ max, min ≤ most) :
    Follows text.length (fun starts => upTo step (max.elim (text.length + 1) (· - min)) (times step min starts))
      fun first last => ∃ rounds, min ≤ rounds ∧ (∀ most ∈ max, rounds ≤ most) ∧ Rounds relation rounds first last := by
  intro starts within last
  rw [(follows.times forward min).comp (forward.rounds min) (follows.upTo forward _) starts within last]
  refine exists_congr fun first => and_congr_right fun start => ?_
  constructor
  · rintro ⟨middle, enough, more, few, rest⟩
    refine ⟨min + more, Nat.le_add_right _ _, ?_, (rounds_add min more).mpr ⟨middle, enough, rest⟩⟩
    rintro most rfl
    have := proper most rfl
    simp only [Option.elim] at few
    omega
  · rintro ⟨rounds, enough, notTooMany, found⟩
    obtain ⟨more, rfl⟩ := Nat.exists_eq_add_of_le enough
    obtain ⟨middle, enough, rest⟩ := (rounds_add min more).mp found
    cases max with
    | none =>
      have inside := (forward.rounds min first middle (within first start) enough).2
      have reached := (forward.rounds more middle last inside rest).2
      obtain ⟨few, short, fewer⟩ := forward.shorten inside rest
      exact ⟨middle, enough, few, by simp only [Option.elim]; omega, fewer⟩
    | some most =>
      have := notTooMany most rfl
      exact ⟨middle, enough, more, by simp only [Option.elim]; omega, rest⟩

theorem follows_ofExpr (proper : expr.Proper) : Follows text.length (ofExpr text expr).ends (expr.Matches text) := by
  induction expr with
  | empty => exact .stay
  | char c =>
    have follows : Follows text.length (advance text (· == c)).ends _ := follows_advance (· == c)
    simpa [ofExpr, Expr.Matches] using follows
  | set chars => exact follows_advance chars.contains
  | look condition => exact follows_stay condition
  | seq before after ihBefore ihAfter =>
    exact (ihBefore proper.1).comp (before.forward text) (ihAfter proper.2)
  | alt left right ihLeft ihRight => exact (ihLeft proper.1).or (ihRight proper.2)
  | iterate body min max ih =>
    have follows := follows_iterate (ih proper.1) (body.forward text) proper.2
    cases max <;> exact follows
  | group body ih => exact ih proper

end Motion

theorem Expr.occurs_iff (proper : expr.Proper) : expr.occurs text = true ↔
    ∃ first last, first ≤ text.length ∧ expr.Matches text first last := by
  have within (place : Nat) (member : (everywhere text.length).testBit place = true) : place ≤ text.length := by
    rwa [Motion.testBit_everywhere, decide_eq_true_eq] at member
  rw [Expr.occurs, bne_iff_ne, Motion.exists_testBit]
  simp only [Motion.follows_ofExpr proper _ within, Motion.testBit_everywhere, decide_eq_true_eq]
  exact exists_comm

end TagMenu.Pattern
