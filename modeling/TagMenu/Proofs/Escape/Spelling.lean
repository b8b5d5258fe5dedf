import Mathlib
import TagMenu.Proofs.Escape.Digits

namespace TagMenu.Escape

open Unicode (NameTable)

variable {names : NameTable} {chars rest text written digits : List Char} {letter c : Char}
  {expected missing value n base width : Nat}

def places (base : Nat) : Nat → Nat → List Nat
  | 0, _ => []
  | width + 1, n => n / base ^ width % base :: places base width n

theorem place_lt (some : 0 < base) (member : value ∈ places base width n) : value < base := by
  induction width with
  | zero => cases member
  | succ width ih =>
    rcases List.mem_cons.mp member with rfl | member
    · exact Nat.mod_lt _ some
    · exact ih member

theorem hexDigits_places (width n : Nat) :
    List.Forall₂ IsHexDigit (places 16 width n) ((places 16 width n).map Nat.digitChar) := by
  rw [List.forall₂_map_right_iff, List.forall₂_same]
  exact fun value member => ⟨place_lt (by decide) member, .inl rfl⟩

theorem hexDigits_visible {values : List Nat} (written : List.Forall₂ IsHexDigit values digits) :
    ∀ digit ∈ digits, Text.isBlank digit = false := by
  have both : ∀ value < 16, Text.isBlank value.digitChar = false ∧
      Text.isBlank value.digitChar.toUpper = false := by decide
  induction written with
  | nil => simp
  | cons digit rest ih =>
    refine List.forall_mem_cons.mpr ⟨?_, ih⟩
    obtain ⟨bound, rfl | rfl⟩ := digit
    · exact (both _ bound).1
    · exact (both _ bound).2

theorem scalar?_toNat (c : Char) : Text.scalar? c.toNat = some c := by
  have valid : c.toNat.isValidChar := c.valid
  rw [Text.scalar?, dif_pos valid]
  have same := Char.ofNat_toNat c
  rw [Char.ofNat, dif_pos valid] at same
  exact congrArg some same

theorem characterOf_toNat (c : Char) : characterOf c.toNat = .ok [c] := by
  rw [characterOf, scalar?_toNat]

def shortForms : List (Char × Char) :=
  [('\\', '\\'), ('\'', '\''), ('"', '"'), ('a', '\x07'), ('b', '\x08'), ('f', '\x0c'), ('n', '\n'), ('r', '\r'),
    ('t', '\t'), ('v', '\x0b')]

/-- The ways to write a character. -/
inductive Spelling (c : Char) : List Char → Prop
  | itself (ordinary : c ≠ '\\') : Spelling c [c]
  | short {letter : Char} (known : (letter, c) ∈ shortForms) : Spelling c ['\\', letter]
  | hex {letter : Char} {width : Nat} {digits : List Char} (known : (letter, width) ∈ hexForms)
      (fits : c.toNat < 16 ^ width) (written : List.Forall₂ IsHexDigit (places 16 width c.toNat) digits) :
      Spelling c ('\\' :: letter :: digits)
  | octal (fits : c.toNat ≤ 0o777) : Spelling c ('\\' :: (places 8 3 c.toNat).map Nat.digitChar)

/-- A text is written with a spelling for each character, and with broken lines between them. -/
inductive Encodes : List Char → List Char → Prop
  | nothing : Encodes [] []
  | broken {text written : List Char} (encodes : Encodes text written) : Encodes text ('\\' :: '\n' :: written)
  | character {c : Char} {text spelled written : List Char} (spelling : Spelling c spelled)
      (encodes : Encodes text written) : Encodes (c :: text) (spelled ++ written)

theorem Reads.hex (reads : Reads names chars text (.hex letter expected missing value))
    (written : List.Forall₂ IsHexDigit (places 16 (missing + 1) n) digits)
    (total : value * 16 ^ (missing + 1) + n % 16 ^ (missing + 1) = c.toNat) :
    Reads names (chars ++ digits) (text ++ [c]) .plain := by
  have room := reads.room
  -- `value` is what the digits so far denote; `total` adds to it what the missing ones have to give.
  induction missing generalizing chars text value digits with
  | zero =>
    obtain ⟨digit, _, first, none, rfl⟩ := List.forall₂_cons_left_iff.mp written
    cases none
    refine reads.next ?_
    have last : value * 16 + n / 16 ^ 0 % 16 = c.toNat := by simpa using total
    rw [step_last_digit first room, last, characterOf_toNat]
    rfl
  | succ missing ih =>
    obtain ⟨digit, others, first, more, rfl⟩ := List.forall₂_cons_left_iff.mp written
    have rest : (value * 16 + n / 16 ^ (missing + 1) % 16) * 16 ^ (missing + 1) + n % 16 ^ (missing + 1) =
        c.toNat := by
      have split : n % 16 ^ (missing + 1 + 1) = _ := Nat.mod_pow_succ
      rw [← total, split]
      ring
    have onward := reads.next (step_digit first room)
    simpa using ih onward more rest onward.room

theorem reads_short (known : (letter, c) ∈ shortForms) : Reads names ['\\', letter] [c] .plain := by
  have forms : ∀ form ∈ shortForms, readEscaped form.1 = ([form.2], .plain) := by decide
  have stepped : step names .backslash letter = .ok ([c], .plain) := congrArg Except.ok (forms _ known)
  exact (Reads.start.next step_plain_open).next stepped

theorem reads_hex (known : (letter, width) ∈ hexForms) (fits : c.toNat < 16 ^ width)
    (written : List.Forall₂ IsHexDigit (places 16 width c.toNat) digits) :
    Reads names ('\\' :: letter :: digits) [c] .plain := by
  have forms : ∀ form ∈ hexForms, readEscaped form.1 = ([], .hex form.1 form.2 (form.2 - 1) 0) ∧ 0 < form.2 := by
    decide
  obtain ⟨announced, some⟩ := forms _ known
  obtain ⟨missing, rfl⟩ := Nat.exists_eq_add_one.mpr some
  have stepped : step names .backslash letter = .ok ([], .hex letter (missing + 1) missing 0) :=
    congrArg Except.ok announced
  have opened : Reads names ['\\', letter] [] (.hex letter (missing + 1) missing 0) :=
    (Reads.start.next step_plain_open).next stepped
  exact opened.hex written (by rw [Nat.zero_mul, Nat.zero_add, Nat.mod_eq_of_lt fits])

theorem reads_octal (fits : c.toNat ≤ 0o777) :
    Reads names ('\\' :: (places 8 3 c.toNat).map Nat.digitChar) [c] .plain := by
  have digits : ∀ value < 8, Text.octalValue? value.digitChar = some value ∧
      readEscaped value.digitChar = ([], .octal 1 value) := by decide
  obtain ⟨high, highLt, written⟩ : ∃ high < 8, high = c.toNat / 8 ^ 2 % 8 :=
    ⟨_, Nat.mod_lt _ (by decide), rfl⟩
  obtain ⟨middle, middleLt, writtenMiddle⟩ : ∃ middle < 8, middle = c.toNat / 8 ^ 1 % 8 :=
    ⟨_, Nat.mod_lt _ (by decide), rfl⟩
  obtain ⟨low, lowLt, writtenLow⟩ : ∃ low < 8, low = c.toNat / 8 ^ 0 % 8 :=
    ⟨_, Nat.mod_lt _ (by decide), rfl⟩
  have total : (high * 8 + middle) * 8 + low = c.toNat := by omega
  have first : step names .backslash high.digitChar = .ok ([], .octal 1 high) :=
    congrArg Except.ok (digits high highLt).2
  have second : step names (.octal 1 high) middle.digitChar = .ok ([], .octal 0 (high * 8 + middle)) := by
    rw [step, (digits middle middleLt).1]
  have third : step names (.octal 0 (high * 8 + middle)) low.digitChar = .ok ([c], .plain) := by
    rw [step, (digits low lowLt).1]
    simp only [total, characterOf_toNat]
    rfl
  simp only [places, List.map_cons, List.map_nil, ← written, ← writtenMiddle, ← writtenLow]
  exact (((Reads.start.next step_plain_open).next first).next second).next third

theorem reads_spelling (spelling : Spelling c written) : Reads names written [c] .plain := by
  cases spelling with
  | itself ordinary => exact Reads.start.next (step_plain_itself ordinary)
  | short known => exact reads_short known
  | hex known fits written => exact reads_hex known fits written
  | octal fits => exact reads_octal fits

theorem reads_broken : Reads names ['\\', '\n'] [] .plain :=
  (Reads.start.next step_plain_open).next (show step names .backslash '\n' = .ok ([], .plain) from rfl)

theorem reads_encoded (encodes : Encodes text written) : Reads names written text .plain := by
  induction encodes with
  | nothing => exact .start
  | broken encodes ih => exact reads_broken.append ih
  | character spelling encodes ih => exact (reads_spelling spelling).append ih

def wide (c : Char) : List Char := '\\' :: 'U' :: (places 16 8 c.toNat).map Nat.digitChar

theorem spelling_wide (c : Char) : Spelling c (wide c) :=
  .hex (show ('U', 8) ∈ hexForms by decide) c.val.toNat_lt (hexDigits_places 8 c.toNat)

theorem wide_visible (c : Char) : ∀ mark ∈ wide c, Text.isBlank mark = false := by
  rw [wide, List.forall_mem_cons, List.forall_mem_cons]
  exact ⟨rfl, rfl, hexDigits_visible (hexDigits_places 8 c.toNat)⟩

theorem encodes_wide (text : List Char) : Encodes text (text.flatMap wide) := by
  induction text with
  | nil => exact .nothing
  | cons c rest ih => exact .character (spelling_wide c) ih

/-- Every mixture of spellings is decoded to the text that it spells, and every text has one without
    blanks, so without tabs and line feeds. -/
theorem decode_encoded (names : NameTable) :
    (∀ text written : String, Encodes text.toList written.toList → decode names written = .ok text) ∧
    ∀ text : String, ∃ written : String,
      (∀ c ∈ written.toList, c ≠ '\t' ∧ c ≠ '\n' ∧ Text.isBlank c = false) ∧
        Encodes text.toList written.toList ∧ decode names written = .ok text := by
  have decoded (text written : String) (encodes : Encodes text.toList written.toList) :
      decode names written = .ok text := by
    rw [(reads_encoded encodes).decodes finish_plain, List.append_nil, String.ofList_toList]
  refine ⟨decoded, fun text => ⟨String.ofList (text.toList.flatMap wide), ?_, ?_⟩⟩
  · intro c member
    rw [String.toList_ofList, List.mem_flatMap] at member
    obtain ⟨spelled, -, mark⟩ := member
    have visible := wide_visible _ c mark
    refine ⟨?_, ?_, visible⟩
    · rintro rfl
      cases visible
    · rintro rfl
      cases visible
  · have encodes : Encodes text.toList (String.ofList (text.toList.flatMap wide)).toList := by
      rw [String.toList_ofList]
      exact encodes_wide text.toList
    exact ⟨encodes, decoded _ _ encodes⟩

theorem decode_encoded_mixture :
    let names : NameTable := fun _ => none
    Encodes "\x017\\ǿ😀".toList "\\0017\\\\\\\n\\u01fF\\U0001f600".toList ∧
      decode names "\\0017\\\\\\\n\\u01fF\\U0001f600" = .ok "\x017\\ǿ😀" := by
  intro names
  have one : Spelling '\x01' ['\\', '0', '0', '1'] := .octal (by decide)
  have seven : Spelling '7' ['7'] := .itself (by decide)
  have backslash : Spelling '\\' ['\\', '\\'] := .short (by decide)
  have letter : Spelling 'ǿ' ['\\', 'u', '0', '1', 'f', 'F'] :=
    .hex (show ('u', 4) ∈ hexForms by decide) (by decide) (by simp [places, IsHexDigit]; decide)
  have face : Spelling '😀' ['\\', 'U', '0', '0', '0', '1', 'f', '6', '0', '0'] := spelling_wide '😀'
  have encodes : Encodes "\x017\\ǿ😀".toList "\\0017\\\\\\\n\\u01fF\\U0001f600".toList :=
    .character one (.character seven (.character backslash (.broken (.character letter (.character face .nothing)))))
  exact ⟨encodes, (decode_encoded names).1 _ _ encodes⟩

end TagMenu.Escape
