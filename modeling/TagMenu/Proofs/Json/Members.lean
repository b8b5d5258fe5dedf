import Mathlib
import TagMenu.Json.Value

namespace TagMenu.Json

section

variable {α : Type} {name other : String} {value : α} {members later : List (String × α)}

theorem member?_append (members later : List (String × α)) (name : String) :
    member? name (members ++ later) = (member? name later).or (member? name members) := by
  rw [member?, List.reverse_append, List.lookup_append]
  rfl

@[simp]
theorem member?_nil (name : String) : member? name ([] : List (String × α)) = none := rfl

theorem member?_cons (name other : String) (value : α) (members : List (String × α)) :
    member? name ((other, value) :: members) =
      (member? name members).or (if name = other then some value else none) := by
  rw [← List.singleton_append, member?_append]
  by_cases same : name = other <;> simp [member?, List.lookup, same, beq_eq_false_iff_ne.mpr]

theorem member?_cons_of_ne (different : name ≠ other) (value : α) (members : List (String × α)) :
    member? name ((other, value) :: members) = member? name members := by
  rw [member?_cons, if_neg different, Option.or_none]

theorem member?_cons_self (absent : member? name members = none) (value : α) :
    member? name ((name, value) :: members) = some value := by
  rw [member?_cons, absent, if_pos rfl, Option.none_or]

theorem mem_of_member? (found : member? name members = some value) : (name, value) ∈ members := by
  obtain ⟨before, after, split, -⟩ := List.lookup_eq_some_iff.mp found
  rw [← List.mem_reverse, split]
  simp

theorem member?_isSome : (member? name members).isSome = true ↔ name ∈ members.map (·.1) := by
  simp [member?, List.lookup_isSome_iff]

theorem member?_map {β : Type} (change : α → β) (name : String) (members : List (String × α)) :
    member? name (members.map fun (name, value) => (name, change value)) = (member? name members).map change := by
  induction members with
  | nil => rfl
  | cons member rest ih =>
    obtain ⟨other, value⟩ := member
    rw [List.map_cons, member?_cons, member?_cons, ih]
    by_cases same : name = other <;> cases member? name rest <;> simp [same]

theorem member?_eq_none_of_lt (above : ∀ member ∈ members, name < member.1) : member? name members = none := by
  rw [← Option.not_isSome_iff_eq_none, member?_isSome, List.mem_map]
  rintro ⟨member, inside, rfl⟩
  exact lt_irrefl _ (above member inside)

theorem member?_eq_some_iff (ascending : members.Pairwise (·.1 < ·.1)) :
    member? name members = some value ↔ (name, value) ∈ members := by
  refine ⟨mem_of_member?, fun inside => ?_⟩
  induction members with
  | nil => cases inside
  | cons member rest ih =>
    obtain ⟨other, kept⟩ := member
    obtain ⟨below, ascending⟩ := List.pairwise_cons.mp ascending
    rcases List.mem_cons.mp inside with same | inside
    · cases same
      exact member?_cons_self (member?_eq_none_of_lt below) value
    · have above : other < name := below _ inside
      rw [member?_cons_of_ne above.ne', ih ascending inside]

end

namespace Value

variable {name other : String} {value : Value} {members : List (String × Value)}

theorem mem_insert {member : String × Value} (inside : member ∈ insert name value members) :
    member = (name, value) ∨ member ∈ members := by
  fun_induction insert name value members <;> grind

theorem ascending_insert (name : String) (value : Value) (ascending : members.Pairwise (·.1 < ·.1)) :
    (insert name value members).Pairwise (·.1 < ·.1) := by
  fun_induction insert name value members with
  | case1 => simp
  | case2 other kept rest before =>
    obtain ⟨below, rest⟩ := List.pairwise_cons.mp ascending
    refine List.pairwise_cons.mpr ⟨List.forall_mem_cons.mpr ⟨before, fun member inside => ?_⟩, ascending⟩
    exact before.trans (below member inside)
  | case3 kept rest not =>
    exact List.pairwise_cons.mpr (List.pairwise_cons.mp ascending)
  | case4 other kept rest notBefore different ih =>
    obtain ⟨below, rest⟩ := List.pairwise_cons.mp ascending
    refine List.pairwise_cons.mpr ⟨fun member inside => ?_, ih rest⟩
    rcases mem_insert inside with rfl | inside
    · exact lt_of_le_of_ne (not_lt.mp notBefore) (Ne.symm different)
    · exact below member inside

theorem member?_insert (ascending : members.Pairwise (·.1 < ·.1)) (name other : String) (value : Value) :
    member? other (insert name value members) = if other = name then some value else member? other members := by
  fun_induction insert name value members with
  | case1 => rw [member?_cons, member?_nil, Option.none_or]
  | case2 first kept rest before =>
    obtain ⟨below, -⟩ := List.pairwise_cons.mp ascending
    by_cases same : other = name
    · subst same
      have above : ∀ member ∈ (first, kept) :: rest, other < member.1 :=
        List.forall_mem_cons.mpr ⟨before, fun member inside => before.trans (below member inside)⟩
      rw [member?_cons_self (member?_eq_none_of_lt above), if_pos rfl]
    · rw [member?_cons_of_ne same, if_neg same]
  | case3 kept rest =>
    obtain ⟨below, -⟩ := List.pairwise_cons.mp ascending
    by_cases same : other = name
    · subst same
      rw [member?_cons_self (member?_eq_none_of_lt below), if_pos rfl]
    · rw [member?_cons_of_ne same, member?_cons_of_ne same, if_neg same]
  | case4 first kept rest notBefore different ih =>
    rw [member?_cons, ih (List.pairwise_cons.mp ascending).2, member?_cons]
    by_cases same : other = name <;> simp [same, different]

theorem member?_foldl_insert (members kept : List (String × Value)) (ascending : kept.Pairwise (·.1 < ·.1)) :
    (members.foldl (fun kept (name, value) => insert name value kept) kept).Pairwise (·.1 < ·.1) ∧
      ∀ name, member? name (members.foldl (fun kept (name, value) => insert name value kept) kept) =
        (member? name members).or (member? name kept) := by
  induction members generalizing kept with
  | nil => exact ⟨ascending, fun name => rfl⟩
  | cons member rest ih =>
    obtain ⟨other, value⟩ := member
    obtain ⟨sorted, found⟩ := ih _ (ascending_insert other value ascending)
    refine ⟨sorted, fun name => (found name).trans ?_⟩
    rw [member?_insert ascending, member?_cons, Option.or_assoc]
    by_cases same : name = other <;> simp [same]

theorem sortedMembers_eq (members : List (String × Value)) :
    sortedMembers members = members.map fun (name, value) => (name, value.sorted) := by
  induction members with
  | nil => rfl
  | cons member rest ih => rw [sortedMembers, ih, List.map_cons]

theorem sortedItems_eq (items : List Value) : sortedItems items = items.map sorted := by
  induction items with
  | nil => rfl
  | cons item rest ih => rw [sortedItems, ih, List.map_cons]

theorem sorted_object (members : List (String × Value)) :
    ∃ kept, sorted (.object members) = .object kept ∧ kept.Pairwise (·.1 < ·.1) ∧
      ∀ name, member? name kept = (member? name members).map sorted := by
  obtain ⟨ascending, found⟩ := member?_foldl_insert (sortedMembers members) [] List.Pairwise.nil
  refine ⟨_, sorted.eq_3 members, ascending, fun name => ?_⟩
  rw [found, member?_nil, Option.or_none, sortedMembers_eq, member?_map]

theorem sorted_eq_leaf {scalar : Scalar} : value.sorted = .leaf scalar ↔ value = .leaf scalar := by
  cases value <;> simp [sorted]

theorem sorted_eq_texts {items : List String} : value.sorted = texts items ↔ value = texts items := by
  cases value with
  | leaf scalar => simp [sorted, texts]
  | object members => simp [sorted, texts]
  | list values =>
    simp only [sorted, sortedItems_eq, texts, Tree.list.injEq]
    induction values generalizing items with
    | nil => simp
    | cons value rest ih => cases items <;> simp [ih, text, sorted_eq_leaf]

end Value

end TagMenu.Json
