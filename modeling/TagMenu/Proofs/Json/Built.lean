import Mathlib
import TagMenu.Json.Builder

namespace TagMenu.Json

variable {Leaf Name Item : Type} {dialect : Dialect Leaf Name} {containers outer : List (Container Leaf Name)}
  {expected : Expected} {result : Option (Tree Leaf Name)} {builder closed : Builder Leaf Name} {token : Token}
  {tokens : List Token} {tree : Tree Leaf Name} {leaf : Leaf}

def Dialect.Proper (dialect : Dialect Leaf Name) : Prop :=
  ∀ token ∈ [Token.openList, .closeList, .openObject, .closeObject],
    dialect.leaf? token = none ∧ dialect.name? token = none

namespace Builder

def Ready (builder : Builder Leaf Name) : Prop :=
  builder.expected = .value ∨
    ∃ items outer orEnd, builder.containers = .list items :: outer ∧ builder.expected = .item orEnd

def Builds (dialect : Dialect Leaf Name) (tokens : List Token) (tree : Tree Leaf Name) : Prop :=
  ∀ builder : Builder Leaf Name, builder.Ready → tokens.foldlM (step dialect) builder = builder.add tree

theorem step_of_ready (ready : builder.Ready) (other : token ≠ .closeList) :
    builder.step dialect token = builder.value dialect token := by
  rcases ready with value | ⟨items, outer, orEnd, list, item⟩
  · rw [step, value]
  · have stays : builder.close? token = none := by
      unfold close?
      split <;> simp_all
    rw [step, item]
    simp [stays, Builder.item, list]

theorem add_expected (other : Expected) (tree : Tree Leaf Name) :
    (⟨containers, expected, result⟩ : Builder Leaf Name).add tree =
      (⟨containers, other, result⟩ : Builder Leaf Name).add tree := by
  unfold add
  rcases containers with _ | ⟨_ | _ | _, _⟩ <;> rfl

theorem item_eq_none (proper : dialect.Proper) (builder : Builder Leaf Name)
    (closing : token = .closeList ∨ token = .closeObject) : builder.item dialect token = none := by
  obtain ⟨leafless, nameless⟩ := proper token (by rcases closing with rfl | rfl <;> simp)
  have value : builder.value dialect token = none := by
    unfold value
    rcases closing with rfl | rfl <;> simp [leafless]
  unfold item
  split
  · rw [nameless]
    rfl
  · exact value

theorem step_of_close (proper : dialect.Proper) (between : expected = .item true ∨ expected = .separator)
    (closing : token = .closeList ∨ token = .closeObject) :
    (⟨containers, expected, result⟩ : Builder Leaf Name).step dialect token =
      (⟨containers, expected, result⟩ : Builder Leaf Name).close? token := by
  have other : token ≠ .comma := by
    rintro rfl
    simp at closing
  unfold step
  rcases between with rfl | rfl
  · cases (⟨containers, .item true, result⟩ : Builder Leaf Name).close? token <;>
      simp [item_eq_none proper _ closing]
  · cases (⟨containers, .separator, result⟩ : Builder Leaf Name).close? token <;>
      simp [item_eq_none proper _ closing, other]

theorem foldlM_items (opened : List Item → Container Leaf Name) (items : List Item) (tokens : Item → List Token)
    (each : ∀ item ∈ items, ∀ done orEnd,
      (tokens item).foldlM (step dialect) ⟨opened done :: outer, .item orEnd, result⟩ =
        some ⟨opened (item :: done) :: outer, .separator, result⟩) (done : List Item) (orEnd : Bool) :
    ([.comma].intercalate (items.map tokens)).foldlM (step dialect) ⟨opened done :: outer, .item orEnd, result⟩ =
      some ⟨opened (items.reverse ++ done) :: outer, if items.isEmpty then .item orEnd else .separator, result⟩ := by
  induction items generalizing done orEnd with
  | nil => simp
  | cons item more ih =>
    obtain ⟨first, each⟩ := List.forall_mem_cons.mp each
    cases more with
    | nil => simp [first]
    | cons next more =>
      have comma : step dialect ⟨opened (item :: done) :: outer, .separator, result⟩ .comma =
        some ⟨opened (item :: done) :: outer, .item dialect.loose, result⟩ := rfl
      have later := ih each (item :: done) dialect.loose
      rw [List.map_cons, List.map_cons, List.intercalate_cons_cons, List.append_assoc, List.foldlM_append, first,
        List.singleton_append]
      simp only [Option.bind_eq_bind, Option.bind_some, List.foldlM_cons, comma]
      rw [← List.map_cons, later]
      simp

theorem builds_leaf (proper : dialect.Proper) (known : dialect.leaf? token = some leaf) :
    Builds dialect [token] (.leaf leaf) := by
  have plain : ∀ bracket ∈ [Token.openList, .closeList, .openObject, .closeObject], token ≠ bracket := by
    rintro bracket inside rfl
    cases known.symm.trans (proper token inside).1
  simp only [List.forall_mem_cons] at plain
  intro builder ready
  rw [List.foldlM_cons, step_of_ready ready plain.2.1]
  unfold value
  split
  · exact absurd rfl plain.1
  · exact absurd rfl plain.2.2.1
  · simp [known]

theorem foldlM_enclosed (proper : dialect.Proper) (opened : List Item → Container Leaf Name) (items : List Item)
    (tokens : Item → List Token) {opening closing : Token}
    (each : ∀ item ∈ items, ∀ done orEnd,
      (tokens item).foldlM (step dialect) ⟨opened done :: containers, .item orEnd, result⟩ =
        some ⟨opened (item :: done) :: containers, .separator, result⟩)
    (starts : step dialect ⟨containers, expected, result⟩ opening = some ⟨opened [] :: containers, .item true, result⟩)
    (bracket : closing = .closeList ∨ closing = .closeObject)
    (closes : ∀ last, (⟨opened items.reverse :: containers, last, result⟩ : Builder Leaf Name).close? closing =
      (⟨containers, last, result⟩ : Builder Leaf Name).add tree) :
    (opening :: [.comma].intercalate (items.map tokens) ++ [closing]).foldlM (step dialect)
        ⟨containers, expected, result⟩ =
      (⟨containers, expected, result⟩ : Builder Leaf Name).add tree := by
  have read := foldlM_items opened items tokens each [] true
  have ends : step dialect ⟨opened items.reverse :: containers,
      if items.isEmpty then .item true else .separator, result⟩ closing =
        (⟨containers, expected, result⟩ : Builder Leaf Name).add tree := by
    rw [step_of_close proper (by split <;> simp) bracket, closes]
    exact add_expected expected tree
  rw [List.append_nil] at read
  simp only [List.cons_append, List.foldlM_cons, starts, List.foldlM_append, read, ends, List.foldlM_nil,
    Option.bind_eq_bind, Option.bind_some]
  exact Option.bind_fun_some _

theorem builds_list (proper : dialect.Proper) (items : List Item) (tokens : Item → List Token)
    (tree : Item → Tree Leaf Name) (each : ∀ item ∈ items, Builds dialect (tokens item) (tree item)) :
    Builds dialect (.openList :: [.comma].intercalate (items.map tokens) ++ [.closeList])
      (.list (items.map tree)) := by
  rintro ⟨containers, expectation, result⟩ ready
  apply foldlM_enclosed proper fun done => .list (done.map tree)
  · exact fun item inside done orEnd => each item inside _ (.inr ⟨_, _, orEnd, rfl, rfl⟩)
  · exact step_of_ready ready (by decide)
  · exact .inl rfl
  · intro last
    simp only [close?, List.map_reverse, List.reverse_reverse]

theorem builds_object (proper : dialect.Proper) (members : List Item) (name : Item → Token) (named : Item → Name)
    (tokens : Item → List Token) (tree : Item → Tree Leaf Name)
    (names : ∀ member ∈ members, dialect.name? (name member) = some (named member))
    (each : ∀ member ∈ members, Builds dialect (tokens member) (tree member)) :
    Builds dialect
      (.openObject :: [.comma].intercalate (members.map fun member => name member :: .colon :: tokens member) ++
        [.closeObject])
      (.object (members.map fun member => (named member, tree member))) := by
  rintro ⟨containers, expectation, result⟩ ready
  apply foldlM_enclosed proper fun done => .object (done.map fun member => (named member, tree member))
  · intro member inside done orEnd
    have other : name member ≠ .closeObject := by
      intro same
      cases (proper .closeObject (by simp)).2.symm.trans (same ▸ names member inside)
    let before := done.map fun member => (named member, tree member)
    have stays : (⟨.object before :: containers, .item orEnd, result⟩ : Builder Leaf Name).close? (name member) =
        none := by
      unfold close?
      split <;> simp_all
    have reached : step dialect ⟨.object before :: containers, .item orEnd, result⟩ (name member) =
        some ⟨.member before (named member) :: containers, .colon, result⟩ := by
      simp [step, stays, item, names member inside]
    have colon : step dialect ⟨.member before (named member) :: containers, .colon, result⟩ .colon =
        some ⟨.member before (named member) :: containers, .value, result⟩ := rfl
    simp only [List.foldlM_cons, before, reached, colon, Option.bind_eq_bind, Option.bind_some]
    exact each member inside _ (.inl rfl)
  · exact step_of_ready ready (by decide)
  · exact .inr rfl
  · intro last
    simp only [close?, List.map_reverse, List.reverse_reverse]

theorem build_of_builds (builds : Builds dialect tokens tree) : build dialect tokens = some tree := by
  rw [build, builds {} (.inl rfl)]
  rfl

end Builder

end TagMenu.Json
