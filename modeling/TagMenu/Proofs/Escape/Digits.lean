import Mathlib
import TagMenu.Proofs.Escape.Reads

namespace TagMenu.Escape

open Unicode (NameTable)

variable {names : NameTable} {reading : Reading} {chars text : List Char} {letter c : Char}
  {expected missing value digit : Nat}

def IsHexDigit (value : Nat) (c : Char) : Prop :=
  value < 16 ∧ (c = value.digitChar ∨ c = value.digitChar.toUpper)

theorem hexValue?_of_digit (digit : IsHexDigit value c) : Text.hexValue? c = some value := by
  have both : ∀ value < 16, Text.hexValue? value.digitChar = some value ∧
      Text.hexValue? value.digitChar.toUpper = some value := by decide
  obtain ⟨bound, rfl | rfl⟩ := digit
  · exact (both value bound).1
  · exact (both value bound).2

theorem between {first last : Char} {P : Nat → Char → Prop}
    (all : ∀ value < last.toNat - first.toNat + 1, P value (Char.ofNat (first.toNat + value))) (low : first ≤ c)
    (high : c ≤ last) : P (c.toNat - first.toNat) c := by
  have low : first.toNat ≤ c.toNat := low
  have high : c.toNat ≤ last.toNat := high
  have here := all (c.toNat - first.toNat) (by omega)
  rwa [Nat.add_sub_cancel' low, Char.ofNat_toNat] at here

theorem isHexDigit_of_hexValue? (digit : Text.hexValue? c = some value) : IsHexDigit value c := by
  unfold Text.hexValue? at digit
  simp only [Bool.and_eq_true, decide_eq_true_eq] at digit
  split at digit
  · rename_i range
    obtain rfl := Option.some.inj digit
    exact between (P := IsHexDigit) (by unfold IsHexDigit; decide) range.1 range.2
  · split at digit
    · rename_i range
      obtain rfl := Option.some.inj digit
      exact between (P := fun value => IsHexDigit (value + 10)) (by unfold IsHexDigit; decide) range.1 range.2
    · split at digit
      · rename_i range
        obtain rfl := Option.some.inj digit
        exact between (P := fun value => IsHexDigit (value + 10)) (by unfold IsHexDigit; decide) range.1 range.2
      · cases digit

def hexForms : List (Char × Nat) := [('x', 2), ('u', 4), ('U', 8)]

theorem within32?_eq_some {n m : Nat} : within32? n = some m ↔ m = n ∧ m < 2 ^ 32 := by
  unfold within32?
  split
  · rw [Option.some.injEq]
    omega
  · simp only [reduceCtorEq, false_iff]
    omega

theorem pushDigit?_eq_some {pushed : Nat} :
    pushDigit? value digit = some pushed ↔ pushed = value * 16 + digit ∧ pushed < 2 ^ 32 := by
  simp only [pushDigit?, Option.bind_eq_bind, Option.bind_eq_some_iff, within32?_eq_some]
  constructor
  · rintro ⟨_, ⟨rfl, -⟩, same, fits⟩
    exact ⟨same, fits⟩
  · rintro ⟨rfl, fits⟩
    exact ⟨value * 16, ⟨rfl, by omega⟩, rfl, fits⟩

/-- With all the digits that are still to come, the number fits into 32 bits. -/
def Room (missing value : Nat) : Prop := (value + 1) * 16 ^ (missing + 1) ≤ 2 ^ 32

theorem room_of_hexForms (known : (letter, missing + 1) ∈ hexForms) : Room missing 0 := by
  have few : ∀ form ∈ hexForms, (0 + 1) * 16 ^ form.2 ≤ 2 ^ 32 := by decide
  exact few _ known

theorem Room.next (room : Room (missing + 1) value) (small : digit < 16) : Room missing (value * 16 + digit) := by
  have more : value * 16 + digit + 1 ≤ (value + 1) * 16 := by omega
  calc
    (value * 16 + digit + 1) * 16 ^ (missing + 1) ≤ (value + 1) * 16 * 16 ^ (missing + 1) := Nat.mul_le_mul_right _ more
    _ = (value + 1) * 16 ^ (missing + 1 + 1) := by ring
    _ ≤ 2 ^ 32 := room

theorem Room.pushDigit? (room : Room missing value) (small : digit < 16) :
    pushDigit? value digit = some (value * 16 + digit) := by
  have one : 16 ≤ 16 ^ (missing + 1) := Nat.le_self_pow (Nat.succ_ne_zero missing) 16
  have fits : (value + 1) * 16 ≤ 2 ^ 32 := (Nat.mul_le_mul_left _ one).trans room
  exact pushDigit?_eq_some.mpr ⟨rfl, by omega⟩

theorem step_digit (digit : IsHexDigit value c) {before : Nat} (room : Room (missing + 1) before) :
    step names (.hex letter expected (missing + 1) before) c =
      .ok ([], .hex letter expected missing (before * 16 + value)) := by
  simp only [step, hexValue?_of_digit digit, room.pushDigit? digit.1]

theorem step_last_digit (digit : IsHexDigit value c) {before : Nat} (room : Room 0 before) :
    step names (.hex letter expected 0 before) c =
      (characterOf (before * 16 + value)).map fun text => (text, .plain) := by
  simp only [step, hexValue?_of_digit digit, room.pushDigit? digit.1]

theorem readPlain_ne_hex (c : Char) : (readPlain c).2 ≠ .hex letter expected missing value := by
  unfold readPlain
  split <;> simp

theorem hex_of_readEscaped (read : (readEscaped c).2 = .hex letter expected missing value) :
    value = 0 ∧ (letter, missing + 1) ∈ hexForms := by
  unfold readEscaped at read
  split at read
  · cases read
  · split at read
    · rename_i digits announced
      obtain ⟨rfl, rfl, rfl, rfl⟩ := Reading.hex.inj read
      have forms : (c, digits) ∈ hexForms ∧ digits - 1 + 1 = digits := by
        unfold hexDigits? at announced
        split at announced <;> cases announced <;> decide
      exact ⟨rfl, forms.2.symm ▸ forms.1⟩
    · split at read
      · cases read
      · split at read <;> cases read

theorem hex_of_step (stepped : step names reading c = .ok (text, .hex letter expected missing value)) :
    (value = 0 ∧ (letter, missing + 1) ∈ hexForms) ∨
      ∃ before digit, reading = .hex letter expected (missing + 1) before ∧ digit < 16 ∧
        value = before * 16 + digit := by
  -- Only a letter behind a backslash begins a number, and only a digit goes on with one.
  cases reading with
  | plain => exact absurd (congrArg Prod.snd (Except.ok.inj stepped)) (readPlain_ne_hex c)
  | backslash => exact .inl (hex_of_readEscaped (congrArg Prod.snd (Except.ok.inj stepped)))
  | hex letter' expected' missing' before =>
    rw [step] at stepped
    split at stepped
    · cases stepped
    · rename_i digit known
      split at stepped
      · cases stepped
      · rename_i pushed
        split at stepped
        · obtain ⟨_, -, same⟩ := ok_of_map stepped
          cases same
        · cases stepped
          exact .inr ⟨before, digit, rfl, (isHexDigit_of_hexValue? known).1, (pushDigit?_eq_some.mp pushed).1⟩
  | nameStart =>
    rw [step] at stepped
    split at stepped <;> cases stepped
  | name reversed =>
    rw [step] at stepped
    split at stepped
    · dsimp only at stepped
      split at stepped
      · cases stepped
      · split at stepped <;> cases stepped
    · cases stepped
  | octal left before =>
    rw [step] at stepped
    split at stepped
    · split at stepped
      · obtain ⟨_, -, same⟩ := ok_of_map stepped
        cases same
      · cases stepped
    · obtain ⟨_, -, same⟩ := ok_of_map stepped
      exact absurd (congrArg Prod.snd same) (readPlain_ne_hex c)

theorem Reads.room (reads : Reads names chars text (.hex letter expected missing value)) : Room missing value := by
  generalize inside : Reading.hex letter expected missing value = reading at reads
  induction reads generalizing missing value with
  | start => cases inside
  | next reads stepped ih =>
    subst inside
    rcases hex_of_step stepped with ⟨rfl, known⟩ | ⟨before, digit, rfl, small, rfl⟩
    · exact room_of_hexForms known
    · exact (ih rfl).next small

end TagMenu.Escape
