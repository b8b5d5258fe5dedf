import Mathlib
import TagMenu.Json.Value
import TagMenu.Proofs.Json.Grammar

namespace TagMenu.Json

variable {chars : List Char} {c : Char} {depth : Nat}

theorem quoteChar_cases (c : Char) :
    (∃ letter, (letter, c) ∈ shortEscapes ∧ Value.quoteChar c = ['\\', letter]) ∨
    (∃ high low, Value.quoteChar c = ['\\', 'u', '0', '0', Nat.digitChar high, Nat.digitChar low] ∧ high < 16 ∧
      low < 16 ∧ 16 * high + low = c.toNat) ∨
    (Value.quoteChar c = [c] ∧ 0x20 ≤ c.toNat ∧ c ≠ '"' ∧ c ≠ '\\') := by
  unfold Value.quoteChar
  split
  case h_8 quote slash _ _ _ _ _ =>
    split
    case isTrue control => exact .inr (.inl ⟨_, _, rfl, by omega, by omega, by omega⟩)
    case isFalse shown => exact .inr (.inr ⟨rfl, not_lt.mp shown, quote, slash⟩)
  all_goals exact .inl ⟨_, by decide, rfl⟩

theorem quoteChar_spelled (c : Char) :
    ∃ piece : Piece, piece.Spelled (Value.quoteChar c) ∧
      ∀ pieces chars, MakeUp pieces chars → MakeUp (piece :: pieces) (c :: chars) := by
  obtain ⟨letter, known, quoted⟩ | ⟨high, low, quoted, highDigit, lowDigit, code⟩ | ⟨quoted, shown, plain⟩ :=
    quoteChar_cases c
  · exact ⟨.char c, quoted ▸ .short known, fun _ _ => .char⟩
  · have written : List.Forall₂ Escape.IsHexDigit [0, 0, high, low]
        ['0', '0', Nat.digitChar high, Nat.digitChar low] := by
      have zero : Escape.IsHexDigit 0 '0' := ⟨by decide, .inl rfl⟩
      exact .cons zero (.cons zero (.cons ⟨highDigit, .inl rfl⟩ (.cons ⟨lowDigit, .inl rfl⟩ .nil)))
    have denoted : Text.numeral 16 [0, 0, high, low] = c.toNat := by
      simp [Text.numeral, ← code]
      omega
    have spelled : Piece.Spelled (.unit c.toNat) (Value.quoteChar c) := by
      rw [quoted, ← denoted]
      exact .unit written rfl
    exact ⟨.unit c.toNat, spelled, fun _ _ => .unit⟩
  · exact ⟨.char c, quoted ▸ .itself shown plain, fun _ _ => .char⟩

theorem quoteChars_spelled (content : List Char) :
    ∃ pieces, List.Forall₂ Piece.Spelled pieces (content.map Value.quoteChar) ∧ MakeUp pieces content := by
  induction content with
  | nil => exact ⟨[], .nil, .nothing⟩
  | cons c more ih =>
    obtain ⟨pieces, spelled, made⟩ := ih
    obtain ⟨piece, first, makes⟩ := quoteChar_spelled c
    exact ⟨piece :: pieces, .cons first spelled, makes pieces more made⟩

theorem isText_quoteText (content : String) : IsText content (Value.quoteText content).toList := by
  obtain ⟨pieces, spelled, made⟩ := quoteChars_spelled content.toList
  refine ⟨pieces, ⟨_, spelled, ?_⟩, made⟩
  simp [Value.quoteText, List.flatMap_def]

theorem toDigits_form (n : Nat) :
    ∃ first more, Nat.toDigits 10 n = first :: more ∧ (∀ c ∈ first :: more, c.isDigit = true) ∧
      (first = '0' → more = []) := by
  have digits : ∀ c ∈ Nat.toDigits 10 n, c.isDigit = true := fun c member =>
    Nat.isDigit_of_mem_toDigits (by decide) (by decide) member
  have leading : ∀ n, 0 < n → (Nat.toDigits 10 n).head? ≠ some '0' := by
    intro n
    induction n using Nat.strongRecOn with
    | _ n ih =>
      intro positive
      by_cases small : n < 10
      · rw [Nat.toDigits_of_lt_base small]
        interval_cases n <;> decide
      · rw [Nat.toDigits_of_base_le (by decide) (by omega), List.head?_append_of_ne_nil _ Nat.toDigits_ne_nil]
        exact ih _ (by omega) (by omega)
  cases split : Nat.toDigits 10 n with
  | nil => exact absurd split Nat.toDigits_ne_nil
  | cons first more =>
    refine ⟨first, more, rfl, split ▸ digits, ?_⟩
    rintro rfl
    rcases Nat.eq_zero_or_pos n with rfl | positive
    · simpa using split.symm
    · exact absurd (by rw [split]; rfl) (leading n positive)

theorem isWhole_toDigits (n : Nat) : IsWhole (Nat.toDigits 10 n) := by
  obtain ⟨first, more, split, digits, zero⟩ := toDigits_form n
  rw [split]
  refine ⟨⟨List.cons_ne_nil _ _, digits⟩, fun leading => ?_⟩
  obtain rfl := Option.some.inj leading
  rw [zero rfl]

theorem toList_natural (n : Nat) : (Number.whole n).text.toList = Nat.toDigits 10 n := by
  show (Nat.repr n).toList = _
  rw [Nat.repr_eq_ofList_toDigits, String.toList_ofList]

theorem isNumeral_natural (n : Nat) : IsNumeral (Number.whole n).text.toList := by
  rw [toList_natural]
  simpa using IsNumeral.of (.inl rfl) (isWhole_toDigits n) .none .none

theorem decimalValue?_of_isDigit (digit : c.isDigit = true) :
    Text.decimalValue? c = some (c.toNat - '0'.toNat) := by
  have within : ('0' ≤ c && c ≤ '9') = true := by
    simpa [Char.isDigit, Char.le_def] using digit
  rw [Text.decimalValue?, if_pos within]

theorem mapM_decimalValue? (digits : ∀ c ∈ chars, c.isDigit = true) :
    chars.mapM Text.decimalValue? = some (chars.map fun c => c.toNat - '0'.toNat) := by
  induction chars with
  | nil => rfl
  | cons c rest ih =>
    obtain ⟨first, digits⟩ := List.forall_mem_cons.mp digits
    simp [List.mapM_cons, decimalValue?_of_isDigit first, ih digits]

theorem numeral_toDigits (n : Nat) :
    Text.numeral 10 ((Nat.toDigits 10 n).map fun c => c.toNat - '0'.toNat) = n := by
  have folded : ∀ (chars : List Char) (init : Nat),
      (chars.map fun c => c.toNat - '0'.toNat).foldl (· * 10 + ·) init = Nat.ofDigitChars 10 chars init := by
    intro chars
    induction chars with
    | nil => simp
    | cons c rest ih =>
      intro init
      rw [List.map_cons, List.foldl_cons, ih, Nat.ofDigitChars_cons, Nat.mul_comm init 10]
  rw [Text.numeral, folded, Nat.ofDigitChars_ten_toDigits]

theorem blanks_lineStart (depth : Nat) : Blanks (Value.lineStart depth).toList := by
  intro c inside
  simp only [Value.lineStart, String.toList_append, String.toList_ofList, List.mem_append, List.mem_replicate] at inside
  rcases inside with newline | ⟨-, rfl⟩
  · exact .inr (.inr (.inl (List.mem_singleton.mp newline)))
  · exact .inl rfl

theorem isMark_self (mark : Char) : IsMark mark [mark] := ⟨[], [], nofun, nofun, rfl⟩

theorem IsMark.append {mark : Char} {after : List Char} (marked : IsMark mark chars) (blank : Blanks after) :
    IsMark mark (chars ++ after) := by
  obtain ⟨before, between, first, second, rfl⟩ := marked
  refine ⟨before, between ++ after, first, List.forall_mem_append.mpr ⟨second, blank⟩, ?_⟩
  simp

theorem IsMark.after {mark : Char} {before : List Char} (blank : Blanks before) (marked : IsMark mark chars) :
    IsMark mark (before ++ chars) := by
  obtain ⟨between, after, first, second, rfl⟩ := marked
  refine ⟨before ++ between, after, List.forall_mem_append.mpr ⟨blank, first⟩, second, ?_⟩
  simp

theorem separated_intercalate (items : List String) :
    Separated (items.map String.toList) (",".intercalate items).toList := by
  induction items with
  | nil => exact .nothing
  | cons item more ih =>
    cases more with
    | nil => simpa using Separated.one
    | cons next more =>
      rw [String.intercalate_cons_cons, String.toList_append, String.toList_append]
      exact .more (isMark_self ',') ih

theorem separated_lines (depth : Nat) (item : String) (items : List String) :
    ∃ inside, Separated ((item :: items).map String.toList) inside ∧
      (",".intercalate ((item :: items).map (Value.lineStart depth ++ ·))).toList =
        (Value.lineStart depth).toList ++ inside := by
  induction items generalizing item with
  | nil => exact ⟨item.toList, .one, by simp⟩
  | cons next items ih =>
    obtain ⟨inside, separated, shown⟩ := ih next
    have comma : IsMark ',' ([','] ++ (Value.lineStart depth).toList) :=
      (isMark_self ',').append (blanks_lineStart depth)
    refine ⟨_, .more comma separated, ?_⟩
    rw [List.map_cons] at shown
    rw [List.map_cons, List.map_cons, String.intercalate_cons_cons, String.toList_append, String.toList_append, shown]
    simp

theorem block_form (depth : Nat) {start finish : String} {opening closing : Char} (opens : start.toList = [opening])
    (closes : finish.toList = [closing]) (items : List String) :
    ∃ before inside after, IsMark opening before ∧ Separated (items.map String.toList) inside ∧ IsMark closing after ∧
      (Value.block start finish depth items).toList = before ++ inside ++ after := by
  cases items with
  | nil =>
    refine ⟨[opening], [], [closing], isMark_self opening, .nothing, isMark_self closing, ?_⟩
    simp [Value.block, opens, closes]
  | cons item items =>
    obtain ⟨inside, separated, shown⟩ := separated_lines (depth + 1) item items
    refine ⟨_, inside, _, (isMark_self opening).append (blanks_lineStart (depth + 1)), separated,
      (isMark_self closing).after (blanks_lineStart depth), ?_⟩
    simp only [Value.block, List.isEmpty_cons, Bool.false_eq_true, if_false, String.toList_append, shown, opens, closes]
    simp

theorem Value.indentedItems_eq (items : List Value) :
    indentedItems depth items = items.map (indented depth) := by
  induction items with
  | nil => rfl
  | cons item rest ih => rw [indentedItems, ih, List.map_cons]

theorem Value.indentedMembers_eq (members : List (String × Value)) :
    indentedMembers depth members =
      members.map fun member => quoteText member.1 ++ ": " ++ indented depth member.2 := by
  induction members with
  | nil => rfl
  | cons member rest ih => rw [indentedMembers, ih, List.map_cons]

theorem isList_indented {items : List Value}
    (each : ∀ item ∈ items, IsValue (item.indented (depth + 1)).toList) :
    IsList (items.map fun item => (item.indented (depth + 1)).toList) (Value.indented depth (.list items)).toList := by
  obtain ⟨opening, inside, closing, opens, separated, closes, shown⟩ :=
    block_form depth (rfl : "[".toList = _) (rfl : "]".toList = _) (items.map (Value.indented (depth + 1)))
  rw [List.map_map] at separated
  rw [Value.indented, Value.indentedItems_eq, shown]
  exact ⟨opening, inside, closing, opens, separated, closes, List.forall_mem_map.mpr each, rfl⟩

theorem isObject_indented {members : List (String × Value)}
    (each : ∀ member ∈ members, IsValue (member.2.indented (depth + 1)).toList) :
    IsObject (members.map fun member => (member.1, (member.2.indented (depth + 1)).toList))
      (Value.indented depth (.object members)).toList := by
  obtain ⟨opening, inside, closing, opens, separated, closes, shown⟩ :=
    block_form depth (rfl : "\x7b".toList = _) (rfl : "\x7d".toList = _)
      (members.map fun member => Value.quoteText member.1 ++ ": " ++ member.2.indented (depth + 1))
  have colon : IsMark ':' [':', ' '] := (isMark_self ':').append (show Blanks [' '] by simp [Blanks])
  rw [Value.indented, Value.indentedMembers_eq, shown]
  refine ⟨opening, _, inside, closing, opens, ?_, separated, closes, rfl⟩
  rw [List.map_map, List.forall₂_map_left_iff, List.forall₂_map_right_iff, List.forall₂_same]
  intro member inside
  refine ⟨(Value.quoteText member.1).toList, [':', ' '], isText_quoteText member.1, colon, each member inside, ?_⟩
  simp

theorem IsList.append {items : List (List Char)} {after : List Char} (list : IsList items chars)
    (blank : Blanks after) : IsList items (chars ++ after) := by
  obtain ⟨opening, inside, closing, opens, separated, closes, each, rfl⟩ := list
  exact ⟨opening, inside, closing ++ after, opens, separated, closes.append blank, each, by simp⟩

end TagMenu.Json
