import Mathlib
import TagMenu.Pattern.Parse
import TagMenu.Proofs.Pattern.Matches

namespace TagMenu.Pattern

variable {reading next : Reading} {c : Char} {chars rest : List Char} {extended : Bool} {flags : Flags}

/-- What a step does to the groups that are open. -/
inductive Stepped (reading next : Reading) : Prop
  | kept (group : next.group = reading.group) (outer : next.outer = reading.outer)
  | pushed (item : Item) (proper : item.expr.Proper) (group : next.group = reading.group.push item)
      (outer : next.outer = reading.outer)
  | branched (group : next.group = reading.group.nextBranch) (outer : next.outer = reading.outer)
  | repeated {min : Nat} {max : Option Nat} (proper : ∀ most ∈ max, min ≤ most)
      (group : reading.group.repeatLast min max = .ok next.group) (outer : next.outer = reading.outer)
  | opened (flags : Flags) (captures : Bool) (group : next.group = ⟨flags, captures, [], []⟩)
      (outer : next.outer = reading.group :: reading.outer)
  | closed (around : OpenGroup) (outer : reading.outer = around :: next.outer)
      (group : next.group = around.push reading.group.close)

theorem readBounds_le {min : Nat} {max : Option Nat} (read : readBounds extended chars = .ok ((min, max), rest)) :
    ∀ most ∈ max, min ≤ most := by
  unfold readBounds at read
  obtain ⟨⟨least, after⟩, -, read⟩ := ok_of_bind read
  dsimp only at read
  split at read
  · cases read
    simp
  · split at read
    · cases read
      simp
    · obtain ⟨⟨most, after⟩, -, read⟩ := ok_of_bind read
      dsimp only at read
      split at read
      · split at read
        · rename_i ordered
          cases read
          simpa using ordered
        · cases read
      · cases read
  · cases read

theorem charExpr_proper {octet : Bool} {expr : Expr} (read : Reading.charExpr flags c octet = .ok expr) :
    expr.Proper := by
  unfold Reading.charExpr at read
  split_ifs at read <;> cases read <;> trivial

theorem dotExpr_proper {expr : Expr} (read : Reading.dotExpr flags = .ok expr) : expr.Proper := by
  unfold Reading.dotExpr at read
  split_ifs at read <;> cases read <;> trivial

theorem repeatLast_stepped {repeated : Reading} {min : Nat} {max : Option Nat} (proper : ∀ most ∈ max, min ≤ most)
    (read : reading.repeatLast min max = .ok repeated) : Stepped reading repeated := by
  obtain ⟨group, last, read⟩ := ok_of_bind read
  cases read
  exact .repeated proper last rfl

theorem readGroup_stepped (read : readGroup reading chars = .ok (next, rest)) : Stepped reading next := by
  have named {chars : List Char} (read : readNamedGroup reading chars = .ok (next, rest)) : Stepped reading next := by
    obtain ⟨⟨name, after⟩, -, read⟩ := ok_of_bind read
    dsimp only at read
    split at read
    · cases read
    · cases read
      exact .opened _ _ rfl rfl
  unfold readGroup at read
  split at read
  · cases read
  · cases read
  · cases read
  · cases read
  · exact named read
  · exact named read
  · obtain ⟨⟨list, last, after⟩, -, read⟩ := ok_of_bind read
    dsimp only at read
    split at read
    · cases read
      exact .opened _ _ rfl rfl
    · split at read
      · cases read
      · cases read
        exact .pushed ⟨.empty, 0, false⟩ trivial rfl rfl
  · cases read
    exact .opened _ _ rfl rfl

theorem stepInClass_stepped {cls : OpenClass} {outer : List OpenClass}
    (read : reading.stepInClass cls outer c chars = .ok (next, rest)) : Stepped reading next := by
  unfold Reading.stepInClass at read
  dsimp only at read
  split at read
  · split at read
    · obtain ⟨_, -, read⟩ := ok_of_bind read
      cases read
      exact .kept rfl rfl
    · cases read
      exact .kept rfl rfl
  · obtain ⟨closed, close, read⟩ := ok_of_bind read
    cases read
    obtain ⟨part, -, close⟩ := ok_of_bind close
    cases outer with
    | nil =>
      cases close
      exact .pushed ⟨.set part.set, part.depth, true⟩ trivial rfl rfl
    | cons around more =>
      cases close
      exact .kept rfl rfl
  · cases read
    exact .kept rfl rfl
  · cases read
    exact .kept rfl rfl
  · cases read
    exact .kept rfl rfl
  · obtain ⟨_, -, read⟩ := ok_of_bind read
    cases read
    exact .kept rfl rfl

theorem stepOutside_stepped (read : reading.stepOutside c chars = .ok (next, rest)) : Stepped reading next := by
  unfold Reading.stepOutside at read
  dsimp only at read
  split at read
  · exact readGroup_stepped read
  · obtain ⟨closed, close, read⟩ := ok_of_bind read
    cases read
    unfold Reading.closeGroup at close
    split at close
    · cases close
    · rename_i around outer above
      cases close
      exact .closed around above rfl
  · cases read
    exact .branched rfl rfl
  · cases read
    exact .kept rfl rfl
  · obtain ⟨_, repeated, read⟩ := ok_of_bind read
    cases read
    exact repeatLast_stepped (by simp) repeated
  · obtain ⟨_, repeated, read⟩ := ok_of_bind read
    cases read
    exact repeatLast_stepped (by simp) repeated
  · obtain ⟨_, repeated, read⟩ := ok_of_bind read
    cases read
    exact repeatLast_stepped (by simp) repeated
  · obtain ⟨⟨⟨min, max⟩, after⟩, bounds, read⟩ := ok_of_bind read
    obtain ⟨_, repeated, read⟩ := ok_of_bind read
    cases read
    exact repeatLast_stepped (readBounds_le bounds) repeated
  · obtain ⟨expr, dot, read⟩ := ok_of_bind read
    cases read
    exact .pushed ⟨expr, 0, true⟩ (dotExpr_proper dot) rfl rfl
  · cases read
    exact .pushed ⟨.look _, 0, true⟩ trivial rfl rfl
  · cases read
    exact .pushed ⟨.look _, 0, true⟩ trivial rfl rfl
  · obtain ⟨⟨atom, after⟩, -, read⟩ := ok_of_bind read
    dsimp only at read
    split at read
    · obtain ⟨expr, char, read⟩ := ok_of_bind read
      cases read
      exact .pushed ⟨expr, 0, true⟩ (charExpr_proper char) rfl rfl
    · cases read
      exact .pushed ⟨.set _, 0, true⟩ trivial rfl rfl
    · cases read
      exact .pushed ⟨.look _, 0, true⟩ trivial rfl rfl
  · obtain ⟨expr, char, read⟩ := ok_of_bind read
    cases read
    exact .pushed ⟨expr, 0, true⟩ (charExpr_proper char) rfl rfl

theorem step_stepped (read : reading.step c chars = .ok (next, rest)) : Stepped reading next := by
  unfold Reading.step at read
  split at read
  · exact stepOutside_stepped read
  · exact stepInClass_stepped read

namespace Reading

theorem run_nil (none : skip reading.flags.extended chars = []) : reading.run chars = .ok reading := by
  rw [run]
  split
  · rfl
  · rename_i some
    rw [none] at some
    cases some

theorem run_cons (visible : skip reading.flags.extended chars = c :: rest) :
    reading.run chars = reading.step c rest >>= fun (next, left) => next.run left := by
  rw [run]
  split
  · rename_i none
    rw [none] at visible
    cases visible
  · rename_i first others some
    obtain ⟨rfl, rfl⟩ := List.cons.inj (some.symm.trans visible)
    split
    · rename_i fault stepped
      exact (congrArg (· >>= fun (next, left) => next.run left) stepped).symm
    · rename_i next left stepped
      exact (congrArg (· >>= fun (next, left) => next.run left) stepped).symm

theorem run_step {final : Reading} {left : List Char} (visible : skip reading.flags.extended chars = c :: rest)
    (stepped : reading.step c rest = .ok (next, left)) (read : next.run left = .ok final) :
    reading.run chars = .ok final := by
  rw [run_cons visible, stepped]
  exact read

theorem run_invariant {holds : Reading → Prop}
    (step : ∀ {reading next}, Stepped reading next → holds reading → holds next) {final : Reading}
    (read : reading.run chars = .ok final) (start : holds reading) : holds final := by
  fun_induction run reading chars with
  | case1 reading chars none =>
    cases read
    exact start
  | case2 => cases read
  | case3 reading chars c rest visible next left stepped shorter ih =>
    exact ih read (step (step_stepped stepped) start)

end Reading

theorem parse_of_run {pattern : String} {final : Reading} {expr : Expr}
    (run : ({} : Reading).run pattern.toList = .ok final) (finished : final.finish = .ok expr) :
    parse pattern = .ok expr := by
  rw [parse, run]
  exact finished

theorem seqAll_proper {exprs : List Expr} (proper : ∀ expr ∈ exprs, expr.Proper) : (Expr.seqAll exprs).Proper := by
  fun_induction Expr.seqAll exprs with
  | case1 => trivial
  | case2 expr => exact proper expr (List.mem_singleton_self _)
  | case3 expr next more ih =>
    rw [List.forall_mem_cons] at proper
    exact ⟨proper.1, ih proper.2⟩

theorem altAll_proper {exprs : List Expr} (proper : ∀ expr ∈ exprs, expr.Proper) : (Expr.altAll exprs).Proper := by
  fun_induction Expr.altAll exprs with
  | case1 => trivial
  | case2 expr => exact proper expr (List.mem_singleton_self _)
  | case3 expr next more ih =>
    rw [List.forall_mem_cons] at proper
    exact ⟨proper.1, ih proper.2⟩

theorem ofSequence_proper {items : List Item} (proper : ∀ item ∈ items, item.expr.Proper) :
    (Item.ofSequence items).expr.Proper := by
  unfold Item.ofSequence
  split
  · rename_i item
    exact proper item (List.mem_singleton_self _)
  · exact seqAll_proper (by simpa using proper)

namespace OpenGroup

variable {group repeated : OpenGroup} {item : Item}

structure Proper (group : OpenGroup) : Prop where
  items : ∀ item ∈ group.items, item.expr.Proper
  branches : ∀ item ∈ group.branches, item.expr.Proper

theorem Proper.push (proper : group.Proper) (part : item.expr.Proper) : (group.push item).Proper :=
  ⟨List.forall_mem_cons.mpr ⟨part, proper.items⟩, proper.branches⟩

theorem Proper.nextBranch (proper : group.Proper) : group.nextBranch.Proper :=
  ⟨by simp [OpenGroup.nextBranch], List.forall_mem_cons.mpr ⟨ofSequence_proper proper.items, proper.branches⟩⟩

theorem Proper.content (proper : group.Proper) : group.content.expr.Proper := by
  unfold OpenGroup.content
  dsimp only
  split
  · exact ofSequence_proper proper.items
  · refine altAll_proper ?_
    intro expr member
    simp only [List.mem_map, List.mem_reverse, List.mem_cons] at member
    obtain ⟨item, rfl | known, rfl⟩ := member
    · exact ofSequence_proper proper.items
    · exact proper.branches item known

theorem Proper.close (proper : group.Proper) : group.close.expr.Proper := by
  unfold OpenGroup.close
  dsimp only
  split <;> exact proper.content

def header (group : OpenGroup) : Flags × Bool := (group.flagsAfter, group.captures)

theorem repeatLast_cases {min : Nat} {max : Option Nat} (read : group.repeatLast min max = .ok repeated) :
    ∃ item items, group.items = item :: items ∧
      repeated = { group with items := ⟨.iterate item.expr min max, item.depth + 1, true⟩ :: items } := by
  unfold OpenGroup.repeatLast at read
  split at read
  · cases read
  · rename_i item items same
    split at read
    · cases read
      exact ⟨item, items, same, rfl⟩
    · cases read

end OpenGroup

namespace Reading

def Proper (reading : Reading) : Prop := ∀ group ∈ reading.group :: reading.outer, group.Proper

theorem proper_step (stepped : Stepped reading next) (proper : reading.Proper) : next.Proper := by
  unfold Proper at proper ⊢
  obtain ⟨inner, outer⟩ := List.forall_mem_cons.mp proper
  cases stepped with
  | kept group same => rwa [group, same]
  | pushed item part group same =>
    rw [group, same]
    exact List.forall_mem_cons.mpr ⟨inner.push part, outer⟩
  | branched group same =>
    rw [group, same]
    exact List.forall_mem_cons.mpr ⟨inner.nextBranch, outer⟩
  | repeated bounds group same =>
    obtain ⟨item, items, parts, repeated⟩ := OpenGroup.repeatLast_cases group
    have parts := List.forall_mem_cons.mp (parts ▸ inner.items)
    rw [repeated, same]
    exact List.forall_mem_cons.mpr ⟨⟨List.forall_mem_cons.mpr ⟨⟨parts.1, bounds⟩, parts.2⟩, inner.branches⟩, outer⟩
  | opened flags captures group above =>
    rw [group, above]
    exact List.forall_mem_cons.mpr ⟨⟨by simp, by simp⟩, proper⟩
  | closed around above group =>
    rw [above, List.forall_mem_cons] at outer
    rw [group]
    exact List.forall_mem_cons.mpr ⟨outer.1.push inner.close, outer.2⟩

def base (reading : Reading) : Flags × Bool := (reading.outer.map (·.header)).getLastD reading.group.header

theorem base_step (stepped : Stepped reading next) : next.base = reading.base := by
  unfold base
  cases stepped with
  | kept group outer => rw [group, outer]
  | pushed item part group outer =>
    rw [group, outer]
    rfl
  | branched group outer =>
    rw [group, outer]
    rfl
  | repeated bounds group outer =>
    obtain ⟨item, items, -, repeated⟩ := OpenGroup.repeatLast_cases group
    rw [repeated, outer]
    rfl
  | opened flags captures group outer =>
    rw [outer, List.map_cons, List.getLastD_cons]
  | closed around outer group =>
    rw [outer, group, List.map_cons, List.getLastD_cons]
    rfl

end Reading

theorem parse_proper {pattern : String} {expr : Expr} (read : parse pattern = .ok expr) : expr.Proper := by
  obtain ⟨final, run, finished⟩ := ok_of_bind read
  have start : ({} : Reading).Proper := List.forall_mem_singleton.mpr ⟨by simp, by simp⟩
  have proper := Reading.run_invariant Reading.proper_step run start
  unfold Reading.finish at finished
  split at finished
  · cases finished
  · split at finished
    · cases finished
    · dsimp only at finished
      split at finished
      · cases finished
      · cases finished
        exact (List.forall_mem_cons.mp proper).1.content

end TagMenu.Pattern
