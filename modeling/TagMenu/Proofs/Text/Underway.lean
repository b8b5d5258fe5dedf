import Mathlib
import TagMenu.Text.Utf8

namespace TagMenu.Text

variable {octet second third fourth : UInt8} {octets part read : List UInt8} {c : Char} {character : Partial}
  {code : Nat}

def Follows (octet : UInt8) : Prop := 0x80 ≤ octet.toNat ∧ octet.toNat ≤ 0xBF

theorem ofNat_eq_iff {n : Nat} (small : n < 256) : UInt8.ofNat n = octet ↔ n = octet.toNat := by
  rw [← UInt8.toNat_inj, UInt8.toNat_ofNat', Nat.mod_eq_of_lt (by simpa using small)]

theorem code_valid (c : Char) : c.toNat < 0xD800 ∨ 0xDFFF < c.toNat ∧ c.toNat < 0x110000 := c.valid

theorem exists_char (valid : code < 0xD800 ∨ 0xDFFF < code ∧ code < 0x110000) : ∃ c : Char, c.toNat = code :=
  ⟨Char.ofNatAux code valid, Char.toNat_ofNatAux valid⟩

theorem encode_one : String.utf8EncodeChar c = [octet] ↔ octet.toNat ≤ 0x7F ∧ c.toNat = octet.toNat := by
  have bound := octet.toNat_lt
  have := code_valid c
  simp only [String.utf8EncodeChar, Char.toNat_val]
  split
  · simp only [List.cons.injEq, and_true]
    rw [ofNat_eq_iff (by omega)]
    omega
  · split
    · simp
      omega
    · split
      · simp
        omega
      · simp
        omega

theorem encode_two : String.utf8EncodeChar c = [octet, second] ↔ 0xC2 ≤ octet.toNat ∧ octet.toNat ≤ 0xDF ∧
    Follows second ∧ c.toNat = octet.toNat % 0x20 * 0x40 + second.toNat % 0x40 := by
  have bound := octet.toNat_lt
  have := code_valid c
  simp only [String.utf8EncodeChar, Char.toNat_val, Follows]
  split
  · simp
    omega
  · split
    · simp only [List.cons.injEq, and_true]
      rw [ofNat_eq_iff (by omega), ofNat_eq_iff (by omega)]
      omega
    · split
      · simp
        omega
      · simp
        omega

theorem encode_three : String.utf8EncodeChar c = [octet, second, third] ↔
    (0xE0 ≤ octet.toNat ∧ octet.toNat ≤ 0xEF) ∧ (octet.toNat = 0xE0 → 0xA0 ≤ second.toNat) ∧
    (octet.toNat = 0xED → second.toNat ≤ 0x9F) ∧ Follows second ∧ Follows third ∧
    c.toNat = (octet.toNat % 0x10 * 0x40 + second.toNat % 0x40) * 0x40 + third.toNat % 0x40 := by
  have bound := octet.toNat_lt
  have := code_valid c
  simp only [String.utf8EncodeChar, Char.toNat_val, Follows]
  split
  · simp
    omega
  · split
    · simp
      omega
    · split
      · simp only [List.cons.injEq, and_true]
        rw [ofNat_eq_iff (by omega), ofNat_eq_iff (by omega), ofNat_eq_iff (by omega)]
        omega
      · simp
        omega

theorem encode_four : String.utf8EncodeChar c = [octet, second, third, fourth] ↔
    (0xF0 ≤ octet.toNat ∧ octet.toNat ≤ 0xF4) ∧ (octet.toNat = 0xF0 → 0x90 ≤ second.toNat) ∧
    (octet.toNat = 0xF4 → second.toNat ≤ 0x8F) ∧ Follows second ∧ Follows third ∧ Follows fourth ∧
    c.toNat = ((octet.toNat % 8 * 0x40 + second.toNat % 0x40) * 0x40 + third.toNat % 0x40) * 0x40 +
      fourth.toNat % 0x40 := by
  have bound := octet.toNat_lt
  have := code_valid c
  simp only [String.utf8EncodeChar, Char.toNat_val, Follows]
  split
  · simp
    omega
  · split
    · simp
      omega
    · split
      · simp
        omega
      · simp only [List.cons.injEq, and_true]
        rw [ofNat_eq_iff (by omega), ofNat_eq_iff (by omega), ofNat_eq_iff (by omega), ofNat_eq_iff (by omega)]
        omega

theorem encode_cases (same : String.utf8EncodeChar c = octet :: octets) :
    octets = [] ∧ octet.toNat ≤ 0x7F ∨
    (∃ second, octets = [second] ∧ 0xC2 ≤ octet.toNat ∧ octet.toNat ≤ 0xDF) ∨
    (∃ second third, octets = [second, third] ∧ 0xE0 ≤ octet.toNat ∧ octet.toNat ≤ 0xEF) ∨
    ∃ second third fourth, octets = [second, third, fourth] ∧ 0xF0 ≤ octet.toNat ∧ octet.toNat ≤ 0xF4 := by
  have short : (octet :: octets).length ≤ 4 := by
    rw [← same, String.length_utf8EncodeChar]
    exact c.utf8Size_le_four
  rcases octets with _ | ⟨second, _ | ⟨third, _ | ⟨fourth, _ | ⟨more, rest⟩⟩⟩⟩
  · exact .inl ⟨rfl, (encode_one.mp same).1⟩
  · obtain ⟨low, high, -⟩ := encode_two.mp same
    exact .inr (.inl ⟨_, rfl, low, high⟩)
  · obtain ⟨lead, -⟩ := encode_three.mp same
    exact .inr (.inr (.inl ⟨_, _, rfl, lead⟩))
  · obtain ⟨lead, -⟩ := encode_four.mp same
    exact .inr (.inr (.inr ⟨_, _, _, rfl, lead⟩))
  · simp only [List.length_cons] at short
    omega

inductive Finishes : Partial → List UInt8 → Nat → Prop
  | last {low high bits : Nat} {octet : UInt8} (inside : low ≤ octet.toNat ∧ octet.toNat ≤ high) :
      Finishes ⟨1, low, high, bits⟩ [octet] (bits * 0x40 + octet.toNat % 0x40)
  | more {owed low high bits code : Nat} {octet : UInt8} {octets : List UInt8}
      (inside : low ≤ octet.toNat ∧ octet.toNat ≤ high)
      (rest : Finishes ⟨owed + 1, 0x80, 0xBF, bits * 0x40 + octet.toNat % 0x40⟩ octets code) :
      Finishes ⟨owed + 2, low, high, bits⟩ (octet :: octets) code

/-- A character is under way after these octets. -/
structure Underway (read : List UInt8) (character : Partial) : Prop where
  started : read ≠ []
  owes : 0 < character.owed
  inside : character.low ≤ character.high ∧ character.high < 256
  finishes : ∀ octets code, Finishes character octets code ↔
    ∃ c : Char, c.toNat = code ∧ String.utf8EncodeChar c = read ++ octets

theorem underway_two (lead : 0xC2 ≤ octet.toNat ∧ octet.toNat ≤ 0xDF) :
    Underway [octet] ⟨1, 0x80, 0xBF, octet.toNat % 0x20⟩ := by
  refine ⟨by simp, Nat.one_pos, by simp, fun octets code => ⟨?_, ?_⟩⟩
  · rintro (⟨follows⟩)
    rename_i second
    obtain ⟨c, same⟩ : ∃ c : Char, c.toNat = octet.toNat % 0x20 * 0x40 + second.toNat % 0x40 :=
      exists_char (by omega)
    exact ⟨c, same, encode_two.mpr ⟨lead.1, lead.2, follows, same⟩⟩
  · rintro ⟨c, rfl, same⟩
    rcases encode_cases same with ⟨-, _⟩ | ⟨second, rfl, _⟩ | ⟨_, _, -, _⟩ | ⟨_, _, _, -, _⟩ <;> try omega
    obtain ⟨-, -, follows, code⟩ := encode_two.mp same
    rw [code]
    exact .last follows

theorem underway_three (octet : UInt8) (low high : Nat) (lead : 0xE0 ≤ octet.toNat ∧ octet.toNat ≤ 0xEF)
    (inside : low ≤ high ∧ high < 256)
    (range : ∀ n, low ≤ n ∧ n ≤ high ↔
      (0x80 ≤ n ∧ n ≤ 0xBF) ∧ (octet.toNat = 0xE0 → 0xA0 ≤ n) ∧ (octet.toNat = 0xED → n ≤ 0x9F)) :
    Underway [octet] ⟨2, low, high, octet.toNat % 0x10⟩ := by
  refine ⟨by simp, Nat.two_pos, inside, fun octets code => ⟨?_, ?_⟩⟩
  · rintro (_ | ⟨first, ⟨last⟩⟩)
    rename_i second third
    obtain ⟨follows, above, below⟩ := (range _).mp first
    obtain ⟨c, same⟩ : ∃ c : Char,
        c.toNat = (octet.toNat % 0x10 * 0x40 + second.toNat % 0x40) * 0x40 + third.toNat % 0x40 :=
      exists_char (by omega)
    exact ⟨c, same, encode_three.mpr ⟨lead, above, below, follows, last, same⟩⟩
  · rintro ⟨c, rfl, same⟩
    rcases encode_cases same with ⟨-, _⟩ | ⟨_, -, _⟩ | ⟨second, third, rfl, _⟩ | ⟨_, _, _, -, _⟩ <;> try omega
    obtain ⟨-, above, below, follows, last, code⟩ := encode_three.mp same
    rw [code]
    exact .more ((range _).mpr ⟨follows, above, below⟩) (.last last)

theorem underway_four (octet : UInt8) (low high : Nat) (lead : 0xF0 ≤ octet.toNat ∧ octet.toNat ≤ 0xF4)
    (inside : low ≤ high ∧ high < 256)
    (range : ∀ n, low ≤ n ∧ n ≤ high ↔
      (0x80 ≤ n ∧ n ≤ 0xBF) ∧ (octet.toNat = 0xF0 → 0x90 ≤ n) ∧ (octet.toNat = 0xF4 → n ≤ 0x8F)) :
    Underway [octet] ⟨3, low, high, octet.toNat % 8⟩ := by
  refine ⟨by simp, Nat.succ_pos 2, inside, fun octets code => ⟨?_, ?_⟩⟩
  · rintro (_ | ⟨first, _ | ⟨next, ⟨last⟩⟩⟩)
    rename_i second third fourth
    obtain ⟨follows, above, below⟩ := (range _).mp first
    obtain ⟨c, same⟩ : ∃ c : Char, c.toNat = ((octet.toNat % 8 * 0x40 + second.toNat % 0x40) * 0x40 +
        third.toNat % 0x40) * 0x40 + fourth.toNat % 0x40 := exists_char (by omega)
    exact ⟨c, same, encode_four.mpr ⟨lead, above, below, follows, next, last, same⟩⟩
  · rintro ⟨c, rfl, same⟩
    rcases encode_cases same with ⟨-, _⟩ | ⟨_, -, _⟩ | ⟨_, _, -, _⟩ | ⟨second, third, fourth, rfl, _⟩ <;> try omega
    obtain ⟨-, above, below, follows, next, last, code⟩ := encode_four.mp same
    rw [code]
    exact .more ((range _).mpr ⟨follows, above, below⟩) (.more next (.last last))

def Begins (octets : List UInt8) : Prop := ∃ c, octets <+: String.utf8EncodeChar c

theorem Begins.of_prefix (begins : Begins octets) (front : part <+: octets) : Begins part := by
  obtain ⟨c, encoded⟩ := begins
  exact ⟨c, front.trans encoded⟩

inductive Led (octet : UInt8) : List Char × Option Partial → Prop
  | complete {c : Char} (same : String.utf8EncodeChar c = [octet]) : Led octet ([c], none)
  | begun {character : Partial} (underway : Underway [octet] character) : Led octet ([], some character)
  | refused (stray : ¬ Begins [octet]) : Led octet ([replacement], none)

theorem led_leadOctet (octet : UInt8) : Led octet (leadOctet octet.toNat) := by
  have bound := octet.toNat_lt
  unfold leadOctet
  simp only [Bool.and_eq_true, decide_eq_true_eq, beq_iff_eq]
  split_ifs with low two atE0 atED three atF0 four atF4
  · refine .complete (encode_one.mpr ⟨low, ?_⟩)
    rw [Char.toNat_ofNat, if_pos (.inl (by omega))]
  · exact .begun (underway_two two)
  · simpa only [atE0] using Led.begun
      (underway_three octet 0xA0 0xBF (by omega) (by simp) (by omega))
  · simpa only [atED] using Led.begun
      (underway_three octet 0x80 0x9F (by omega) (by simp) (by omega))
  · exact .begun (underway_three octet _ _ (by omega) (by simp) (by omega))
  · simpa only [atF0] using Led.begun
      (underway_four octet 0x90 0xBF (by omega) (by simp) (by omega))
  · exact .begun (underway_four octet _ _ (by omega) (by simp) (by omega))
  · simpa only [atF4] using Led.begun
      (underway_four octet 0x80 0x8F (by omega) (by simp) (by omega))
  · refine .refused ?_
    rintro ⟨c, octets, same⟩
    rcases encode_cases same.symm with ⟨-, _⟩ | ⟨_, -, _⟩ | ⟨_, _, -, _⟩ | ⟨_, _, _, -, _⟩ <;> omega

namespace Underway

theorem exists_finish {owed : Nat} (low high bits : Nat) (owes : 0 < owed) (inside : low ≤ high ∧ high < 256) :
    ∃ octets code, Finishes ⟨owed, low, high, bits⟩ octets code := by
  have first : ∃ octet : UInt8, octet.toNat = low := ⟨UInt8.ofNat low, by simp; omega⟩
  obtain ⟨octet, rfl⟩ := first
  induction owed generalizing octet high bits with
  | zero => cases owes
  | succ owed ih =>
    cases owed with
    | zero => exact ⟨_, _, .last ⟨le_rfl, inside.1⟩⟩
    | succ owed =>
      obtain ⟨octets, code, rest⟩ := ih 0xBF (bits * 0x40 + octet.toNat % 0x40) (Nat.succ_pos _) 0x80 (by decide)
      exact ⟨_, _, .more ⟨le_rfl, inside.1⟩ rest⟩

theorem begins (underway : Underway read character) : Begins read := by
  obtain ⟨octets, code, finish⟩ :=
    exists_finish character.low character.high character.bits underway.owes underway.inside
  obtain ⟨c, -, same⟩ := (underway.finishes octets code).mp finish
  exact ⟨c, octets, same.symm⟩

theorem not_complete (underway : Underway read character) (c : Char) : String.utf8EncodeChar c ≠ read := by
  intro same
  have finish := (underway.finishes [] c.toNat).mpr ⟨c, rfl, by rw [same, List.append_nil]⟩
  cases finish

theorem goes_on (underway : Underway read character)
    (inside : character.low ≤ octet.toNat ∧ octet.toNat ≤ character.high) :
    (∃ c, nextOctet (some character) octet.toNat = ([c], none) ∧ String.utf8EncodeChar c = read ++ [octet]) ∨
    ∃ next, nextOctet (some character) octet.toNat = ([], some next) ∧ Underway (read ++ [octet]) next := by
  obtain ⟨owed, low, high, bits⟩ := character
  have kept : (decide (low ≤ octet.toNat) && decide (octet.toNat ≤ high)) = true := by simpa using inside
  simp only [nextOctet, kept, if_true]
  match owed, underway with
  | 1, underway =>
    obtain ⟨c, code, same⟩ := (underway.finishes _ _).mp (.last inside)
    refine .inl ⟨c, ?_, same⟩
    rw [if_pos le_rfl, ← code, Char.ofNat_toNat]
  | owed + 2, underway =>
    refine .inr ⟨_, if_neg (by omega), by simp, Nat.succ_pos _, by simp, fun octets code => ?_⟩
    rw [List.append_assoc, List.singleton_append, ← underway.finishes]
    constructor
    · exact .more inside
    · rintro (_ | ⟨-, rest⟩)
      exact rest

theorem gives_up (underway : Underway read character)
    (outside : ¬ (character.low ≤ octet.toNat ∧ octet.toNat ≤ character.high)) : ¬ Begins (read ++ [octet]) := by
  rintro ⟨c, octets, same⟩
  rw [List.append_assoc, List.singleton_append] at same
  have finish := (underway.finishes _ _).mpr ⟨c, rfl, same.symm⟩
  generalize c.toNat = code at finish
  cases finish with
  | last inside => exact outside inside
  | more inside rest => exact outside inside

end Underway

end TagMenu.Text
