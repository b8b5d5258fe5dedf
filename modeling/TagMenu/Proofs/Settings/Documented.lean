import Mathlib
import TagMenu.Proofs.Json.Members
import TagMenu.Proofs.Lookup
import TagMenu.Settings.Read

namespace TagMenu

open Json (Tree Value Number member?)

namespace Json.Number

/-- A whole number of 32 bits other than zero, and written as one. -/
def IsCount : Number → Prop
  | whole n => 1 ≤ n ∧ n < 2 ^ 32
  | double _ => False

/-- A whole number, at least one, however it is written. -/
def IsPositiveWhole : Number → Prop
  | whole n => 1 ≤ n
  | double d => d.isNegative = false ∧ ∃ n, 0 < n ∧ d.ratio.1 = n * d.ratio.2

theorem IsCount.isPositiveWhole {number : Number} (count : number.IsCount) : number.IsPositiveWhole := by
  cases number with
  | whole n => exact count.1
  | double d => exact count.elim

end Json.Number

theorem Double.isPositiveWhole_iff (double : Double) :
    double.isPositiveWhole = true ↔ double.isNegative = false ∧ ∃ n, 0 < n ∧ double.ratio.1 = n * double.ratio.2 := by
  have zero : double.parts.1 = 0 ↔ double.ratio.1 = 0 := by
    unfold ratio
    split
    rename_i significand exponent parts
    rw [parts]
    split <;> simp
  have whole : double.ratio.1 % double.ratio.2 = 0 ↔ ∃ n, double.ratio.1 = n * double.ratio.2 := by
    rw [← Nat.dvd_iff_mod_eq_zero, dvd_iff_exists_eq_mul_left]
  have denominator : double.ratio.2 ≠ 0 := by
    unfold ratio
    split
    split <;> simp
  have isWhole : double.isWhole = true ↔ double.ratio.1 % double.ratio.2 = 0 := beq_iff_eq
  have isZero : double.isZero = false ↔ double.ratio.1 ≠ 0 := by rw [isZero, beq_eq_false_iff_ne, ne_eq, zero]
  simp only [isPositiveWhole, Bool.and_eq_true, Bool.not_eq_true', isWhole, isZero, whole]
  constructor
  · rintro ⟨⟨⟨n, eq⟩, positive⟩, filled⟩
    refine ⟨positive, n, Nat.pos_of_ne_zero ?_, eq⟩
    rintro rfl
    exact filled (by rw [eq, Nat.zero_mul])
  · rintro ⟨positive, n, filled, eq⟩
    exact ⟨⟨⟨n, eq⟩, positive⟩, by rw [eq]; exact Nat.mul_ne_zero filled.ne' denominator⟩

namespace Settings

variable {value : Value} {members : List (String × Value)} {name content : String} {settings : Settings}
  {number : Number} {counts : Number → Prop}

def IsTagger (value : Value) : Prop :=
  ∃ members, value = .object members ∧ (∀ member ∈ members, member.1 ∈ ["program", "args"]) ∧
    (∃ program, program ≠ "" ∧ member? "program" members = some (Value.text program)) ∧
    ∀ value ∈ member? "args" members, ∃ items, value = Value.texts items

/-- One of the two forms of eviction, the second of them with a number of refreshes. -/
def IsEviction (counts : Number → Prop) (value : Value) : Prop :=
  ∃ members, value = .object members ∧
    (((∀ member ∈ members, member.1 ∈ ["policy"]) ∧ member? "policy" members = some (Value.text "retain")) ∨
      ((∀ member ∈ members, member.1 ∈ ["policy", "refreshes"]) ∧
        member? "policy" members = some (Value.text "idle") ∧
        ∃ number, counts number ∧ member? "refreshes" members = some (.leaf (.number number))))

structure Documented (counts : Number → Prop) (members : List (String × Value)) : Prop where
  known : ∀ member ∈ members, member.1 ∈
    ["$schema", "name", "mark", "filetypes", "tagFiles", "tagger", "conflictingSources", "eviction"]
  schema : ∀ value ∈ member? "$schema" members, ∃ text, value = Value.text text
  name : ∀ value ∈ member? "name" members, ∃ text, text ≠ "" ∧ value = Value.text text
  mark : ∀ value ∈ member? "mark" members, ∃ text, value = Value.text text
  filetypes : ∀ value ∈ member? "filetypes" members, ∃ items, value = Value.texts items
  tagFiles : ∀ value ∈ member? "tagFiles" members, ∃ items, value = Value.texts items
  tagger : ∀ value ∈ member? "tagger" members, IsTagger value
  conflicting : ∀ value ∈ member? "conflictingSources" members, ∃ items, value = Value.texts items
  eviction : ∀ value ∈ member? "eviction" members, IsEviction counts value

def Refreshes (members : List (String × Value)) (number : Number) : Prop :=
  ∃ inner, member? "eviction" members = some (.object inner) ∧
    member? "refreshes" inner = some (.leaf (.number number))

theorem absent_of_known {known : List String} (all : ∀ member ∈ members, member.1 ∈ known) (other : name ∉ known) :
    member? name members = none := by
  rw [← Option.not_isSome_iff_eq_none, Json.member?_isSome, List.mem_map]
  rintro ⟨member, inside, rfl⟩
  exact other (all member inside)

theorem Documented.refreshes (documented : Documented counts members) (given : Refreshes members number) :
    counts number := by
  obtain ⟨inner, eviction, refreshes⟩ := given
  obtain ⟨members, same, ⟨all, -⟩ | ⟨-, -, other, count, found⟩⟩ := documented.eviction _ eviction
  · cases same
    simp [absent_of_known all] at refreshes
  · cases same
    cases found.symm.trans refreshes
    exact count

theorem IsEviction.weaken (form : IsEviction Number.IsCount value) : IsEviction Number.IsPositiveWhole value := by
  obtain ⟨members, same, retain | ⟨all, policy, number, count, given⟩⟩ := form
  · exact ⟨members, same, .inl retain⟩
  · exact ⟨members, same, .inr ⟨all, policy, number, count.isPositiveWhole, given⟩⟩

theorem Documented.weaken (documented : Documented Number.IsCount members) :
    Documented Number.IsPositiveWhole members :=
  { documented with eviction := fun value given => (documented.eviction value given).weaken }

theorem Documented.of_eviction (documented : Documented Number.IsPositiveWhole members)
    (eviction : ∀ value ∈ member? "eviction" members, IsEviction counts value) : Documented counts members :=
  { documented with eviction }

namespace Check

theorem text_iff : Check.text value.sorted = none ↔ ∃ content, value = Value.text content := by
  unfold Check.text
  split
  · rename_i content eq
    simp [Value.sorted_eq_leaf.mp eq, Value.text]
  · rename_i other
    simp only [reduceCtorEq, false_iff, not_exists]
    rintro content rfl
    exact other content rfl

theorem filledText_iff :
    Check.filledText value.sorted = none ↔ ∃ content, content ≠ "" ∧ value = Value.text content := by
  unfold Check.filledText
  split
  · rename_i content eq
    simp [Value.sorted_eq_leaf.mp eq, Value.text]
  · rename_i other
    simp only [reduceCtorEq, false_iff, not_exists]
    rintro content ⟨-, rfl⟩
    exact other content rfl

theorem exactly_iff : Check.exactly content value.sorted = none ↔ value = Value.text content := by
  unfold Check.exactly
  split
  · rename_i other eq
    simp [Value.sorted_eq_leaf.mp eq, Value.text]
  · rename_i other
    simp only [reduceCtorEq, false_iff]
    rintro rfl
    exact other content rfl

theorem positive_iff :
    Check.positive value.sorted = none ↔ ∃ number, number.IsPositiveWhole ∧ value = .leaf (.number number) := by
  unfold Check.positive
  split
  · rename_i n eq
    simp [Value.sorted_eq_leaf.mp eq, Number.IsPositiveWhole]
  · rename_i double eq
    simp [Value.sorted_eq_leaf.mp eq, Number.IsPositiveWhole, Double.isPositiveWhole_iff]
  · rename_i notWhole notDouble
    simp only [reduceCtorEq, false_iff, not_exists]
    rintro (n | double) ⟨-, rfl⟩
    · exact notWhole n rfl
    · exact notDouble double rfl

theorem list_eq_none {item : Check} {items : List Value} :
    Check.list item (.list items) = none ↔ ∀ value ∈ items, item value = none := by
  rw [Check.list, List.findSome?_eq_none_iff]
  conv_rhs => rw [← List.zipIdx_map_fst 0 items, List.forall_mem_map]
  simp

theorem texts_iff : (Check.list .text) value.sorted = none ↔ ∃ items, value = Value.texts items := by
  cases value with
  | leaf scalar => simp [Value.sorted, Check.list, Value.texts]
  | object members => simp [Value.sorted, Check.list, Value.texts]
  | list values =>
    rw [Value.sorted, list_eq_none, Value.sortedItems_eq, List.forall_mem_map]
    simp only [text_iff, Value.texts, Tree.list.injEq]
    have range := Set.ext_iff.mp (Set.range_list_map Value.text) values
    simpa [eq_comm] using range.symm

theorem oneOf_iff {forms : List Check} : Check.oneOf forms value = none ↔ ∃ check ∈ forms, check value = none := by
  simp only [Check.oneOf, ite_eq_left_iff, List.any_eq_true, Option.isNone_iff_eq_none, reduceCtorEq, imp_false,
    not_not]

theorem object_eq_none {forms : List (String × Check)} {required : List String} :
    Check.object forms required (.object members) = none ↔
      (∀ member ∈ members, ∃ check, forms.lookup member.1 = some check ∧ check member.2 = none) ∧
        ∀ name ∈ required, (member? name members).isSome := by
  have present : ∀ name, members.any (·.1 == name) = (member? name members).isSome := by
    intro name
    rw [Bool.eq_iff_iff, Json.member?_isSome]
    simp
  unfold Check.object
  simp only [present]
  split
  case h_1 found =>
    obtain ⟨member, inside, found⟩ := List.exists_of_findSome?_eq_some found
    simp only [reduceCtorEq, false_iff, not_and]
    intro each
    obtain ⟨check, named, passes⟩ := each member inside
    simp [named, passes] at found
  case h_2 none =>
    rw [List.findSome?_eq_none_iff] at none
    have each : ∀ member ∈ members, ∃ check, forms.lookup member.1 = some check ∧ check member.2 = Option.none := by
      intro member inside
      have passes := none member inside
      cases named : forms.lookup member.1 <;> simp_all
    rw [Option.map_eq_none_iff, List.find?_eq_none, and_iff_right each]
    simp only [Bool.not_eq_true', Bool.not_eq_false]

theorem object_iff {forms : List (String × Check)} {required : List String} (distinct : (forms.map (·.1)).Nodup) :
    Check.object forms required value.sorted = none ↔
      ∃ members, value = .object members ∧ (∀ member ∈ members, member.1 ∈ forms.map (·.1)) ∧
        (∀ form ∈ forms, ∀ value ∈ member? form.1 members, form.2 (Value.sorted value) = none) ∧
        ∀ name ∈ required, (member? name members).isSome := by
  cases value with
  | leaf scalar => simp [Value.sorted, Check.object]
  | list items => simp [Value.sorted, Check.object]
  | object members =>
    obtain ⟨kept, same, ascending, found⟩ := Value.sorted_object members
    rw [same, object_eq_none]
    simp only [found, Option.isSome_map, Tree.object.injEq, exists_eq_left']
    rw [← and_assoc]
    refine and_congr_left' ?_
    constructor
    · intro each
      have keeps : ∀ {name value}, member? name members = some value → (name, Value.sorted value) ∈ kept := fun raw =>
        (Json.member?_eq_some_iff ascending).mp (by rw [found, raw]; rfl)
      refine ⟨fun member inside => ?_, fun form listed value raw => ?_⟩
      · obtain ⟨value, raw⟩ := Option.isSome_iff_exists.mp (Json.member?_isSome.mpr (List.mem_map_of_mem inside))
        obtain ⟨check, named, -⟩ := each _ (keeps raw)
        obtain ⟨before, after, split, -⟩ := List.lookup_eq_some_iff.mp named
        simp [split]
      · obtain ⟨check, named, passes⟩ := each _ (keeps raw)
        rw [lookup_of_mem distinct listed] at named
        cases named
        exact passes
    · rintro ⟨known, each⟩ ⟨name, value⟩ inside
      have sorted := (found name).symm.trans ((Json.member?_eq_some_iff ascending).mpr inside)
      obtain ⟨value, raw, rfl⟩ := Option.map_eq_some_iff.mp sorted
      obtain ⟨form, listed, rfl⟩ := List.mem_map.mp (known _ (Json.mem_of_member? raw))
      exact ⟨form.2, lookup_of_mem distinct listed, each form listed value raw⟩

end Check

theorem tagger_iff :
    (Check.object [("program", .filledText), ("args", .list .text)] ["program"]) value.sorted = none ↔
      IsTagger value := by
  rw [Check.object_iff (by simp)]
  simp only [List.forall_mem_cons, List.not_mem_nil, false_imp_iff, implies_true, and_true, Check.filledText_iff,
    Check.texts_iff, List.map_cons, List.map_nil]
  refine exists_congr fun members => and_congr_right fun _ => and_congr_right fun _ => ?_
  constructor
  · rintro ⟨⟨program, args⟩, given⟩
    obtain ⟨value, found⟩ := Option.isSome_iff_exists.mp given
    obtain ⟨content, filled, rfl⟩ := program value found
    exact ⟨⟨content, filled, found⟩, args⟩
  · rintro ⟨⟨program, filled, found⟩, args⟩
    refine ⟨⟨fun value given => ?_, args⟩, Option.isSome_iff_exists.mpr ⟨_, found⟩⟩
    cases found.symm.trans given
    exact ⟨program, filled, rfl⟩

theorem eviction_iff :
    (Check.oneOf [
      .object [("policy", .exactly "retain")] ["policy"],
      .object [("policy", .exactly "idle"), ("refreshes", .positive)] ["policy", "refreshes"]]) value.sorted = none ↔
      IsEviction Number.IsPositiveWhole value := by
  have given : ∀ {members : List (String × Value)} {name : String} {form : Value → Prop},
      ((∀ value ∈ member? name members, form value) ∧ (member? name members).isSome = true) ↔
        ∃ value, form value ∧ member? name members = some value := by
    intro members name form
    cases member? name members <;> simp
  simp only [Check.oneOf_iff, List.exists_mem_cons_iff, List.not_mem_nil, false_and, exists_false, or_false]
  rw [Check.object_iff (by simp), Check.object_iff (by simp), ← exists_or]
  refine exists_congr fun members => ?_
  rw [← and_or_left]
  refine and_congr_right fun _ => ?_
  simp only [List.forall_mem_cons, List.not_mem_nil, false_imp_iff, implies_true, and_true, Check.exactly_iff,
    Check.positive_iff, List.map_cons, List.map_nil]
  refine or_congr (and_congr_right fun _ => ?_) (and_congr_right fun _ => ?_)
  · rw [given, exists_eq_left]
  · rw [and_and_and_comm, given, given, exists_eq_left]
    refine and_congr_right fun _ => ⟨?_, ?_⟩
    · rintro ⟨_, ⟨number, positive, rfl⟩, found⟩
      exact ⟨number, positive, found⟩
    · rintro ⟨number, positive, found⟩
      exact ⟨_, ⟨number, positive, rfl⟩, found⟩

theorem schema_iff :
    schema value.sorted = none ↔ ∃ members, value = .object members ∧ Documented Number.IsPositiveWhole members := by
  rw [schema, Check.object_iff (by simp)]
  simp only [List.forall_mem_cons, List.not_mem_nil, false_imp_iff, implies_true, and_true, Check.filledText_iff,
    Check.texts_iff, Check.text_iff, tagger_iff, eviction_iff, List.map_cons, List.map_nil]
  refine exists_congr fun members => and_congr_right fun _ => ?_
  constructor
  · rintro ⟨known, schema, name, mark, filetypes, tagFiles, tagger, conflicting, eviction⟩
    exact ⟨known, schema, name, mark, filetypes, tagFiles, tagger, conflicting, eviction⟩
  · rintro ⟨known, schema, name, mark, filetypes, tagFiles, tagger, conflicting, eviction⟩
    exact ⟨known, schema, name, mark, filetypes, tagFiles, tagger, conflicting, eviction⟩

end Settings

end TagMenu
