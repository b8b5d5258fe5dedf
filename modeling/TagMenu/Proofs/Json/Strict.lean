import Mathlib
import TagMenu.Json.Strict
import TagMenu.Proofs.Json.Built
import TagMenu.Proofs.Json.Tokens

namespace TagMenu.Json.Strict

open Builder (Builds)

variable {chars inside opening closing rest : List Char} {items : List (List Char)}
  {members : List (String × List Char)} {c : Char} {tokens : List Token} {tree : Document}
  {pieces : List Piece} {content word : String}

theorem regular : lexer.Regular where
  mark {c token} known rest := by
    show next c rest = _
    have other : isBlank c = false := by
      unfold Token.punctuation? at known
      split at known <;> first | decide | cases known
    unfold next
    simp [other, known]
  blank {c} blank rest := by
    show next c rest = _
    have here : isBlank c = true := by simpa [isBlank, or_assoc] using blank
    unfold next
    exact if_pos here

theorem readsAs_quoted (quoted : IsQuoted pieces chars) :
    ReadsAs lexer chars [.text ((contentOf pieces).map String.ofList)] rest := by
  obtain ⟨inside, rfl, read⟩ := readText_of_isQuoted quoted
  have step : lexer.next '"' (inside ++ rest) = some (some (.text ((contentOf pieces).map String.ofList)), rest) := by
    show next '"' (inside ++ rest) = _
    unfold next
    simp [read, show isBlank '"' = false by decide, show Token.punctuation? '"' = none by decide]
  exact .of_next step

theorem next_of_numeral (numeric : c = '-' ∨ c.isDigit = true) (rest : List Char) :
    next c rest = (readNumeral (c :: rest)).map fun (token, rest) => (some token, rest) := by
  have other : ∀ d : Char, d ≠ '-' → d.isDigit = false → c ≠ d := by
    rintro d minus plain rfl
    rcases numeric with rfl | digit
    · exact minus rfl
    · simp [digit] at plain
  have blank : isBlank c = false := by
    simp [isBlank, other ' ' (by decide) (by decide), other '\t' (by decide) (by decide),
      other '\n' (by decide) (by decide), other '\r' (by decide) (by decide)]
  have punctuation : Token.punctuation? c = none := by
    unfold Token.punctuation?
    split <;> first | rfl | exact absurd rfl (other _ (by decide) (by decide))
  unfold next
  simp [blank, punctuation, numeric, other '"' (by decide) (by decide)]

theorem readsAs_numeral (numeral : IsNumeral chars) (ends : EndsNumeral rest) :
    ReadsAs lexer chars [.numeral (String.ofList chars)] rest := by
  obtain ⟨c, more, begins, numeric⟩ : ∃ c more, chars = c :: more ∧ (c = '-' ∨ c.isDigit = true) := by
    cases numeral with
    | of signed wholly broken scaled =>
      obtain ⟨first, more, rfl⟩ := List.exists_cons_of_ne_nil wholly.1.1
      rcases signed with rfl | rfl
      · exact ⟨first, _, rfl, .inr (wholly.1.2 first (List.mem_cons_self ..))⟩
      · exact ⟨'-', _, rfl, .inl rfl⟩
  have read : readNumeral (chars ++ rest) = some (.numeral (String.ofList chars), rest) := by
    have stops : rest.head?.any Char.isDigit = false := by
      cases rest with
      | nil => rfl
      | cons d after => simpa using (ends d rfl).1
    cases numeral with
    | @of sign whole fraction exponent signed wholly broken scaled =>
      have decimal := readDecimal_append wholly broken scaled ends
      have signs : readSign ['-'] (sign ++ (whole ++ fraction ++ exponent) ++ rest) =
          (sign, whole ++ fraction ++ exponent ++ rest) := by
        obtain ⟨first, more, rfl⟩ := List.exists_cons_of_ne_nil wholly.1.1
        have digit := wholly.1.2 first (List.mem_cons_self ..)
        have minus : first ≠ '-' := fun same => by simp [same] at digit
        rcases signed with rfl | rfl
        · simp [readSign, minus]
        · simp [readSign]
      rw [readNumeral, signs]
      simp only [decimal, Option.bind_eq_bind, Option.bind_some, stops]
      rfl
  have step : lexer.next c (more ++ rest) = some (some (.numeral (String.ofList chars)), rest) := by
    show next c (more ++ rest) = _
    rw [next_of_numeral numeric, ← List.cons_append, ← begins, read]
    rfl
  rw [begins] at step ⊢
  exact .of_next step

theorem readsAs_word (known : word ∈ ["true", "false", "null"]) : ReadsAs lexer word.toList [.word word] rest := by
  simp only [List.mem_cons, List.not_mem_nil, or_false] at known
  rcases known with rfl | rfl | rfl
  · exact ReadsAs.of_next (rfl : lexer.next 't' ("rue".toList ++ rest) = some (some (.word "true"), rest))
  · exact ReadsAs.of_next (rfl : lexer.next 'f' ("alse".toList ++ rest) = some (some (.word "false"), rest))
  · exact ReadsAs.of_next (rfl : lexer.next 'n' ("ull".toList ++ rest) = some (some (.word "null"), rest))

theorem proper : dialect.Proper := by simp [Dialect.Proper, dialect, leaf?, name?]

/-- The characters are read as these tokens, unless a numeral would go on behind them, and the tokens make up this
    tree. -/
structure Reads (chars : List Char) (tokens : List Token) (tree : Document) : Prop where
  lexed : ReadsWhole lexer chars tokens
  built : Builds dialect tokens tree

theorem read_of_reads (reads : Reads chars tokens tree) : read (String.ofList chars) = some tree := by
  rw [read, String.toList_ofList, run_of_readsWhole reads.lexed]
  exact Builder.build_of_builds reads.built

theorem reads_quoted (quoted : IsQuoted pieces chars) :
    Reads chars [.text ((contentOf pieces).map String.ofList)] (.leaf (.text ((contentOf pieces).map String.ofList))) :=
  ⟨fun _ _ => readsAs_quoted quoted, Builder.builds_leaf proper rfl⟩

theorem reads_numeral (numeral : IsNumeral chars) :
    Reads chars [.numeral (String.ofList chars)] (.leaf (.numeral (String.ofList chars))) :=
  ⟨fun _ ends => readsAs_numeral numeral ends, Builder.builds_leaf proper rfl⟩

theorem reads_word (known : word ∈ ["true", "false", "null"]) :
    Reads word.toList [.word word] (.leaf (.word word)) :=
  ⟨fun _ _ => readsAs_word known, Builder.builds_leaf proper rfl⟩

theorem reads_list {tokens : List Char → List Token} {tree : List Char → Document}
    (each : ∀ item ∈ items, Reads item (tokens item) (tree item)) (opens : IsMark '[' opening)
    (separated : Separated items inside) (closes : IsMark ']' closing) :
    Reads (opening ++ inside ++ closing) (.openList :: [.comma].intercalate (items.map tokens) ++ [.closeList])
      (.list (items.map tree)) := by
  rw [← List.map_id items] at separated
  refine ⟨?_, Builder.builds_list proper items tokens tree fun item inside => (each item inside).built⟩
  have lexed : ∀ item ∈ items, ReadsWhole lexer (id item) (tokens item) := fun item inside => (each item inside).lexed
  exact .enclosed regular items id tokens lexed opens separated closes rfl rfl (by simp)

/-- The name of a member, which is without content if half of a pair stands alone in it. -/
def nameOf (member : Written) : Option String := (contentOf member.pieces).map String.ofList

theorem reads_object {members : List Written} {tokens : Written → List Token} {tree : Written → Document}
    (names : ∀ member ∈ members, IsQuoted member.pieces member.name)
    (colons : ∀ member ∈ members, IsMark ':' member.colon)
    (each : ∀ member ∈ members, Reads member.value (tokens member) (tree member)) (opens : IsMark '\x7b' opening)
    (separated : Separated (members.map Written.chars) inside) (closes : IsMark '\x7d' closing) :
    Reads (opening ++ inside ++ closing)
      (.openObject ::
        [.comma].intercalate (members.map fun member => .text (nameOf member) :: .colon :: tokens member) ++
          [.closeObject])
      (.object (members.map fun member => (nameOf member, tree member))) := by
  have parts : ∀ member ∈ members,
      ReadsWhole lexer member.chars (.text (nameOf member) :: .colon :: tokens member) := fun member inside =>
    .member regular (fun _ => readsAs_quoted (names member inside)) (colons member inside) (each member inside).lexed
  constructor
  · exact .enclosed regular members Written.chars _ parts opens separated closes rfl rfl (by simp)
  · exact Builder.builds_object proper members (fun member => .text (nameOf member)) nameOf tokens tree
      (fun _ _ => rfl) fun member inside => (each member inside).built

theorem exists_reads (value : IsValue chars) : ∃ tokens tree, Reads chars tokens tree := by
  have : Nonempty Document := ⟨.list []⟩
  induction value with
  | text quoted => exact ⟨_, _, reads_quoted quoted⟩
  | numeral numeral => exact ⟨_, _, reads_numeral numeral⟩
  | word known => exact ⟨_, _, reads_word known⟩
  | list opens separated closes each ih =>
    choose! tokens tree reads using ih
    exact ⟨_, _, reads_list reads opens separated closes⟩
  | object opens separated closes names colons values ih =>
    choose! tokens tree reads using ih
    exact ⟨_, _, reads_object names colons reads opens separated closes⟩

theorem read_text (text : IsText content chars) :
    read (String.ofList chars) = some (.leaf (.text (some content))) := by
  obtain ⟨pieces, quoted, made⟩ := text
  rw [read_of_reads (reads_quoted quoted), contentOf_of_makeUp made, Option.map_some, String.ofList_toList]

theorem read_numeral (numeral : IsNumeral chars) :
    read (String.ofList chars) = some (.leaf (.numeral (String.ofList chars))) :=
  read_of_reads (reads_numeral numeral)

theorem read_list (list : IsList items chars) :
    ∃ trees, read (String.ofList chars) = some (.list trees) ∧
      items.map (fun item => read (String.ofList item)) = trees.map some := by
  obtain ⟨opening, inside, closing, opens, separated, closes, each, rfl⟩ := list
  have : Nonempty Document := ⟨.list []⟩
  have each : ∀ item ∈ items, ∃ tokens tree, Reads item tokens tree := fun item inside =>
    exists_reads (each item inside)
  choose! tokens tree reads using each
  refine ⟨_, read_of_reads (reads_list reads opens separated closes), ?_⟩
  rw [List.map_map]
  exact List.map_congr_left fun item inside => read_of_reads (reads item inside)

def MemberReadAs (member : String × List Char) (tree : Option String × Document) : Prop :=
  tree.1 = some member.1 ∧ read (String.ofList member.2) = some tree.2

theorem read_object (object : IsObject members chars) :
    ∃ trees, read (String.ofList chars) = some (.object trees) ∧ List.Forall₂ MemberReadAs members trees := by
  obtain ⟨opening, _, inside, closing, opens, stated, separated, closes, rfl⟩ := object
  obtain ⟨written, rfl, formed, states⟩ := exists_written stated
  have : Nonempty Document := ⟨.list []⟩
  have each : ∀ member ∈ written, ∃ tokens tree, Reads member.value tokens tree := fun member inside =>
    exists_reads (formed member inside).value
  choose! tokens tree reads using each
  have whole := reads_object (fun member inside => (formed member inside).name)
    (fun member inside => (formed member inside).colon) reads opens separated closes
  refine ⟨_, read_of_reads whole, ?_⟩
  have both : List.Forall₂ (fun member stated => Reads member.value (tokens member) (tree member) ∧
      Written.States stated member) written members := (List.forall₂_and_left _ _).mpr ⟨reads, states.flip⟩
  rw [List.forall₂_map_right_iff]
  refine both.flip.imp fun stated member ⟨reads, made, same⟩ => ⟨?_, same ▸ read_of_reads reads⟩
  rw [nameOf, contentOf_of_makeUp made, Option.map_some, String.ofList_toList]

end TagMenu.Json.Strict
