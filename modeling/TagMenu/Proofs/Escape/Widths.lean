import Mathlib
import TagMenu.Proofs.Escape.Grammar

namespace TagMenu.Escape

open Text (width numeral)
open Unicode (NameTable)

variable {names : NameTable} {chars rest text digits escape meaning : List Char} {values : List Nat}
  {reading : Reading} {c : Char}

/-- Every backslash stands for itself, together with the character behind it. -/
inductive Verbatim : List Char → Prop
  | nothing : Verbatim []
  | itself {c : Char} {chars : List Char} (ordinary : c ≠ '\\') (verbatim : Verbatim chars) : Verbatim (c :: chars)
  | kept {c : Char} {chars : List Char} (unknown : ¬ Opens c) (verbatim : Verbatim chars) :
      Verbatim ('\\' :: c :: chars)

/-- An escape is reached when the text is read from left to right. -/
def HasEscape (names : NameTable) (chars : List Char) : Prop :=
  ∃ before escape meaning rest text, chars = before ++ ('\\' :: escape ++ rest) ∧ Means names before text ∧
    Recognised names rest escape meaning

theorem utf8Size_eq_one (low : c.toNat < 0x80) : c.utf8Size = 1 := by
  rw [Char.utf8Size_eq_one_iff, UInt32.le_iff_toNat_le]
  exact Nat.le_of_lt_succ low

theorem utf8Size_le_two (low : c.toNat < 0x800) : c.utf8Size ≤ 2 := by
  by_cases single : c.toNat < 0x80
  · rw [utf8Size_eq_one single]
    decide
  · apply Nat.le_of_eq
    rw [Char.utf8Size_eq_two_iff, UInt32.lt_iff_toNat_lt, UInt32.le_iff_toNat_le]
    exact ⟨Nat.not_lt.mp single, Nat.le_of_lt_succ low⟩

theorem width_digits {IsDigit : Nat → Char → Prop} (single : ∀ value c, IsDigit value c → c.utf8Size = 1)
    (written : List.Forall₂ IsDigit values digits) : width digits = digits.length := by
  induction written with
  | nil => rfl
  | cons digit written ih =>
    rw [width, ih, single _ _ digit, List.length_cons, Nat.add_comm]

theorem hexDigit_utf8Size {value : Nat} (digit : IsHexDigit value c) : c.utf8Size = 1 := by
  have both : ∀ value < 16, value.digitChar.utf8Size = 1 ∧ value.digitChar.toUpper.utf8Size = 1 := by decide
  obtain ⟨bound, rfl | rfl⟩ := digit
  · exact (both value bound).1
  · exact (both value bound).2

theorem octalDigit_utf8Size {value : Nat} (digit : IsOctalDigit value c) : c.utf8Size = 1 := by
  have all : ∀ value < 8, value.digitChar.utf8Size = 1 := by decide
  obtain ⟨bound, rfl⟩ := digit
  exact all value bound

theorem width_pos (nonempty : chars ≠ []) : 0 < width chars := by
  cases chars with
  | nil => exact absurd rfl nonempty
  | cons c chars => exact Nat.add_pos_left c.utf8Size_pos _

theorem width_hex_lt {letter : Char} {count : Nat} (known : (letter, count) ∈ hexForms)
    (written : List.Forall₂ IsHexDigit values digits) (all : digits.length = count)
    (denoted : numeral 16 values = c.toNat) : width [c] < width ('\\' :: letter :: digits) := by
  have source : width ('\\' :: letter :: digits) = width ['\\', letter] + count := by
    rw [← all, ← width_digits (fun _ _ => hexDigit_utf8Size) written, ← width_append]
    rfl
  have forms : ∀ form ∈ hexForms, width ['\\', form.1] = 2 ∧ (form.2 = 2 ∨ 4 ≤ form.2) := by decide
  have opening : width ['\\', letter] = 2 := (forms _ known).1
  rw [source, opening, width, width]
  obtain two | many : count = 2 ∨ 4 ≤ count := (forms _ known).2
  · have bound : numeral 16 values < 16 ^ digits.length := numeral_lt (fun _ _ digit => digit.1) written
    rw [denoted, all, two] at bound
    have narrow : c.utf8Size ≤ 2 := utf8Size_le_two (by omega)
    omega
  · have narrow := c.utf8Size_le_four
    omega

theorem width_octal_lt (written : List.Forall₂ IsOctalDigit values digits) (nonempty : 0 < digits.length)
    (most : digits.length ≤ 3) (denoted : numeral 8 values = c.toNat) : width [c] < width ('\\' :: digits) := by
  have opening : '\\'.utf8Size = 1 := rfl
  have bound : numeral 8 values < 8 ^ digits.length := numeral_lt (fun _ _ digit => digit.1) written
  rw [denoted] at bound
  rw [width, width, width, width_digits (fun _ _ => octalDigit_utf8Size) written, opening]
  by_cases three : digits.length = 3
  · rw [three] at bound
    have narrow : c.utf8Size ≤ 2 := utf8Size_le_two (by omega)
    omega
  · have power : 8 ^ digits.length ≤ 8 ^ 2 := Nat.pow_le_pow_right (by decide) (by omega)
    have single : c.utf8Size = 1 := utf8Size_eq_one (by omega)
    omega

theorem width_name_lt {name : List Char} (nonempty : name ≠ []) :
    width [c] < width ('\\' :: 'N' :: '\x7b' :: name ++ ['\x7d']) := by
  have around : width ('\\' :: 'N' :: '\x7b' :: name ++ ['\x7d']) = 3 + width name + 1 := by
    rw [width_append, width, width, width, ← Nat.add_assoc, ← Nat.add_assoc]
    rfl
  have inside := width_pos nonempty
  have narrow := c.utf8Size_le_four
  rw [around, width, width]
  omega

theorem Recognised.width_lt (recognised : Recognised names rest escape meaning) :
    width meaning < width ('\\' :: escape) := by
  cases recognised with
  | broken => decide
  | short known =>
    have forms : ∀ form ∈ shortForms, width [form.2] < width ['\\', form.1] := by decide
    exact forms _ known
  | hex known written all denoted => exact width_hex_lt known written all denoted
  | octal written nonempty most ended denoted => exact width_octal_lt written nonempty most denoted
  | name nonempty closed known => exact width_name_lt nonempty

theorem Means.width_le (means : Means names chars text) : width text ≤ width chars := by
  induction means with
  | nothing => exact Nat.le_refl 0
  | itself ordinary means ih => exact Nat.add_le_add_left ih _
  | kept unknown means ih => exact Nat.add_le_add_left (Nat.add_le_add_left ih _) _
  | escape recognised means ih =>
    rw [width_append, width_append]
    exact Nat.add_le_add (Nat.le_of_lt recognised.width_lt) ih

/-- What an escape saves is not spent again, neither before it nor behind it. -/
theorem HasEscape.width_lt (escaped : HasEscape names chars) (means : Means names chars text) :
    width text < width chars := by
  obtain ⟨before, escape, meaning, rest, front, rfl, read, recognised⟩ := escaped
  have whole : Escape.decodeFrom names .plain 0 0 _ = .ok text := means.decoded
  rw [List.cons_append, read.decodeFrom ended_backslash, ← List.cons_append, recognised.decodeFrom] at whole
  obtain ⟨_, continued, rfl⟩ := ok_of_map whole
  obtain ⟨more, behind, rfl⟩ := ok_of_map continued
  have first := read.width_le
  have middle := recognised.width_lt
  have last := (decodeFrom_eq_ok_iff.mp behind).width_le
  rw [width_append, width_append, width_append, width_append]
  omega

theorem Verbatim.means (verbatim : Verbatim chars) : Means names chars chars := by
  induction verbatim with
  | nothing => exact .nothing
  | itself ordinary verbatim ih => exact .itself ordinary ih
  | kept unknown verbatim ih => exact .kept unknown ih

theorem Means.verbatim_or_hasEscape (means : Means names chars text) : Verbatim chars ∨ HasEscape names chars := by
  induction means with
  | nothing => exact .inl .nothing
  | @itself c chars text ordinary means ih =>
    rcases ih with verbatim | ⟨before, escape, meaning, rest, front, rfl, read, recognised⟩
    · exact .inl (.itself ordinary verbatim)
    · exact .inr ⟨c :: before, escape, meaning, rest, c :: front, rfl, .itself ordinary read, recognised⟩
  | @kept c chars text unknown means ih =>
    rcases ih with verbatim | ⟨before, escape, meaning, rest, front, rfl, read, recognised⟩
    · exact .inl (.kept unknown verbatim)
    · exact .inr ⟨_, escape, meaning, rest, _, rfl, .kept unknown read, recognised⟩
  | @escape escape meaning chars text recognised means ih =>
    exact .inr ⟨[], escape, meaning, chars, [], rfl, .nothing, recognised⟩

theorem Reads.width_le (reads : Reads names chars text reading) (means : Means names (chars ++ rest) meaning) :
    width text ≤ width meaning := by
  obtain ⟨start, goesOn⟩ := reads.decodeFrom_append 0 0
  have whole : decodeFrom names .plain 0 0 (chars ++ rest) = .ok meaning := means.decoded
  rw [goesOn] at whole
  obtain ⟨tail, -, rfl⟩ := ok_of_map whole
  rw [width_append]
  exact Nat.le_add_right _ _

/-- Decoded text has no more octets than the written one, and neither has what is decoded of it on the way. It has as
    many only if it is the same text, and it is the same only if no escape is in it. -/
theorem decode_never_grows (names : NameTable) (written decoded : String) (ends : decode names written = .ok decoded) :
    decoded.utf8ByteSize ≤ written.utf8ByteSize ∧
    (∀ chars rest text reading, written.toList = chars ++ rest → Reads names chars text reading →
      width text ≤ written.utf8ByteSize) ∧
    (decoded.utf8ByteSize = written.utf8ByteSize ↔ decoded = written) ∧
    (decoded = written ↔ ¬ HasEscape names written.toList) ∧
    (decoded = written ↔ Verbatim written.toList) := by
  have means := decode_eq_ok_iff.mp ends
  have most : decoded.utf8ByteSize ≤ written.utf8ByteSize := by
    rw [← width_toList, ← width_toList]
    exact means.width_le
  have none_of_equal (equal : decoded.utf8ByteSize = written.utf8ByteSize) : ¬ HasEscape names written.toList := by
    intro escaped
    have fewer := escaped.width_lt means
    rw [width_toList, width_toList, equal] at fewer
    exact Nat.lt_irrefl _ fewer
  have verbatim_of_none (none : ¬ HasEscape names written.toList) : Verbatim written.toList :=
    means.verbatim_or_hasEscape.resolve_right none
  have same_of_verbatim (verbatim : Verbatim written.toList) : decoded = written := by
    rw [decode_eq_ok_iff.mpr verbatim.means] at ends
    exact (Except.ok.inj ends).symm
  have equal_of_same (same : decoded = written) : decoded.utf8ByteSize = written.utf8ByteSize := by rw [same]
  refine ⟨most, ?_, ⟨?_, equal_of_same⟩, ⟨?_, ?_⟩, ⟨?_, same_of_verbatim⟩⟩
  · intro chars rest text reading split reads
    rw [split] at means
    apply Nat.le_trans (reads.width_le means)
    rwa [width_toList]
  · exact fun equal => same_of_verbatim (verbatim_of_none (none_of_equal equal))
  · exact fun same => none_of_equal (equal_of_same same)
  · exact fun none => same_of_verbatim (verbatim_of_none none)
  · exact fun same => verbatim_of_none (none_of_equal (equal_of_same same))

/-- The shortest name of a character of four octets saves one octet, and an escape that is none saves nothing. -/
theorem decode_never_grows_of_name :
    let names : NameTable := fun name => if name = "a" then some '😀' else none
    decode names "\\q\\N\x7ba\x7d" = .ok "\\q😀" ∧ "\\q😀".utf8ByteSize = 6 ∧
      "\\q\\N\x7ba\x7d".utf8ByteSize = 7 ∧ "\\q😀".utf8ByteSize ≤ "\\q\\N\x7ba\x7d".utf8ByteSize ∧
      HasEscape names "\\q\\N\x7ba\x7d".toList ∧ ¬ HasEscape names "\\q".toList := by
  intro names
  have named : decode names "\\q\\N\x7ba\x7d" = .ok "\\q😀" := by decide
  have kept : decode names "\\q" = .ok "\\q" := by decide
  obtain ⟨most, -, -, same, -⟩ := decode_never_grows names _ _ named
  obtain ⟨-, -, -, same', -⟩ := decode_never_grows names _ _ kept
  exact ⟨named, by decide, by decide, most, not_not.mp (mt same.mpr (by decide)), same'.mp rfl⟩

end TagMenu.Escape
