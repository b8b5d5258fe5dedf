import Mathlib

namespace TagMenu

variable {κ α : Type} [BEq κ] [LawfulBEq κ] {name : κ} {value : α} {entries : List (κ × α)}

theorem lookup_cons [DecidableEq κ] (first : κ) (value : α) (entries : List (κ × α)) (name : κ) :
    ((first, value) :: entries).lookup name = if name = first then some value else entries.lookup name := by
  by_cases same : name = first
  · simp [same]
  · have differs : (name == first) = false := by simpa using same
    simp [List.lookup, differs, same]

theorem mem_of_lookup (found : entries.lookup name = some value) : (name, value) ∈ entries := by
  obtain ⟨before, after, split, -⟩ := List.lookup_eq_some_iff.mp found
  rw [split]
  simp

theorem lookup_of_mem (distinct : (entries.map (·.1)).Nodup) (listed : (name, value) ∈ entries) :
    entries.lookup name = some value := by
  obtain ⟨before, after, split⟩ := List.append_of_mem listed
  refine List.lookup_eq_some_iff.mpr ⟨before, after, split, fun other inside => ?_⟩
  rw [split, List.map_append, List.map_cons] at distinct
  have apart := (List.nodup_append.mp distinct).2.2 other.1 (List.mem_map_of_mem inside) name (List.mem_cons_self ..)
  simpa using apart.symm

end TagMenu
