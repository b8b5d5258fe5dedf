import Mathlib
import TagMenu.Json.Loose
import TagMenu.Proofs.Json.Formed
import TagMenu.Proofs.Json.Tokens
import TagMenu.Proofs.Text.Split

namespace TagMenu.Json

open Loose (lexer)

variable {chars rest : List Char} {c : Char} {n : Nat}

theorem Loose.regular : lexer.Regular where
  mark {c token} known rest := by
    show next c rest = _
    have other : Text.isBlank c = false ∧ c ≠ '/' := by
      unfold Token.punctuation? at known
      split at known <;> first | decide | cases known
    unfold next
    simp [other, known]
  blank {c} blank rest := by
    show next c rest = _
    have here : Text.isBlank c = true := by rcases blank with rfl | rfl | rfl | rfl <;> decide
    unfold next
    exact if_pos here

theorem readsAs_quoteText (content : String) (rest : List Char) :
    ReadsAs lexer (Value.quoteText content).toList [.text (some content)] rest := by
  obtain ⟨inside, shown, read⟩ := readText_of_isText (isText_quoteText content)
  have wholeText : Loose.readWholeText '"' (inside ++ rest) = some (.text (some content), rest) := by
    rw [Loose.readWholeText, read]
    rfl
  have step : lexer.next '"' (inside ++ rest) = some (some (.text (some content)), rest) := by
    show Loose.next '"' (inside ++ rest) = _
    unfold Loose.next
    simp [wholeText, show Text.isBlank '"' = false by decide, show Token.punctuation? '"' = none by decide]
  rw [shown]
  exact .of_next step

theorem extend_digits {init : Nat} (digits : ∀ c ∈ chars, c.isDigit = true)
    (small : Nat.ofDigitChars 10 chars init < 2 ^ 64) :
    Number.extend init chars = (Nat.ofDigitChars 10 chars init, 0) := by
  induction chars generalizing init with
  | nil => simp [Number.extend]
  | cons c more ih =>
    obtain ⟨first, digits⟩ := List.forall_mem_cons.mp digits
    rw [Nat.ofDigitChars_cons] at small ⊢
    have value : init * 10 + (Text.decimalValue? c).getD 0 = 10 * init + (c.toNat - '0'.toNat) := by
      rw [decimalValue?_of_isDigit first, Option.getD_some, Nat.mul_comm]
    have bound : 10 * init + (c.toNat - '0'.toNat) < 0x10000000000000000 := by
      rw [Nat.ofDigitChars_eq_ofDigitChars_zero] at small
      have scale := Nat.le_mul_of_pos_left (10 * init + (c.toNat - '0'.toNat))
        (Nat.pow_pos (n := more.length) (by decide : 0 < 10))
      omega
    simp only [Number.extend]
    rw [value, if_pos bound, ih digits small]

theorem ofNumeral?_toDigits (small : n < 2 ^ 64) :
    Number.ofNumeral? (String.ofList (Nat.toDigits 10 n)) = some (.whole n) := by
  obtain ⟨first, more, split, digits, zero⟩ := toDigits_form n
  have free : ∀ mark, mark.isDigit = false → mark ∉ Nat.toDigits 10 n := by
    intro mark other inside
    rw [split] at inside
    simp [digits mark inside] at other
  have plain : ∀ c ∈ Nat.toDigits 10 n, (!(c == 'e' || c == 'E')) = true := by
    intro c inside
    have small : c ≠ 'e' := fun same => free 'e' (by decide) (same ▸ inside)
    have large : c ≠ 'E' := fun same => free 'E' (by decide) (same ▸ inside)
    simp [small, large]
  have parts : Number.decimalParts (Nat.toDigits 10 n) = (Nat.toDigits 10 n, none, none) := by
    simp only [Number.decimalParts]
    rw [List.takeWhile_eq_self_iff.mpr plain, List.dropWhile_eq_nil_iff.mpr plain,
      Text.cutFirst?_eq_none (free '.' (by decide))]
    rfl
  have value : Number.extend 0 (Nat.toDigits 10 n) = (n, 0) := by
    rw [extend_digits (split ▸ digits) (by rwa [Nat.ofDigitChars_ten_toDigits]), Nat.ofDigitChars_ten_toDigits]
  have decimal : Number.ofDecimal? false (Nat.toDigits 10 n) = some (.whole n) := by
    have word : Number.isWord n = true := by
      simp only [Number.isWord, Bool.and_eq_true, decide_eq_true_eq]
      omega
    simp [Number.ofDecimal?, parts, value, word]
  have minus : first ≠ '-' := fun same => free '-' (by decide) (by simp [split, same])
  have plus : first ≠ '+' := fun same => free '+' (by decide) (by simp [split, same])
  rw [← decimal, Number.ofNumeral?, String.toList_ofList, split]
  simp only
  split
  case h_3 => split <;> simp_all
  all_goals
    rename_i hexadecimal
    split at hexadecimal <;> simp_all

theorem next_of_isDigit (digit : c.isDigit = true) (rest : List Char) :
    Loose.next c rest = (Loose.readNumeral (c :: rest)).map fun (token, rest) => (some token, rest) := by
  have other : ∀ d : Char, d.isDigit = false → c ≠ d := fun d plain same => by simp [← same, digit] at plain
  have blank : Text.isBlank c = false := by
    have range : 48 ≤ c.toNat ∧ c.toNat ≤ 57 := by
      simpa [Char.isDigit, UInt32.le_iff_toNat_le] using digit
    simp only [Text.isBlank, Bool.or_eq_false_iff, Bool.and_eq_false_iff, decide_eq_false_iff_not,
      beq_eq_false_iff_ne]
    omega
  have punctuation : Token.punctuation? c = none := by
    unfold Token.punctuation?
    split <;> first | rfl | exact absurd rfl (other _ (by decide))
  unfold Loose.next
  simp [blank, punctuation, digit, other '/' (by decide), other '"' (by decide), other '\'' (by decide)]

theorem readsWhole_natural (n : Nat) :
    ReadsWhole lexer (Number.whole n).text.toList [.numeral (Number.whole n).text] := by
  intro rest ends
  obtain ⟨first, more, split, digits, zero⟩ := toDigits_form n
  have shown : (Number.whole n).text.toList = first :: more := (toList_natural n).trans split
  have decimal : readDecimal (first :: more ++ rest) = some (first :: more, rest) := by
    have read := readDecimal_append (isWhole_toDigits n) .none .none ends
    rw [split] at read
    simpa using read
  have digit := digits first (List.mem_cons_self ..)
  have magnitude : Loose.readMagnitude (first :: more ++ rest) = some (first :: more, rest) := by
    have mark : first = '0' → ∀ c ∈ (more ++ rest).head?, c ≠ 'x' ∧ c ≠ 'X' := by
      intro leading c follows
      rw [zero leading] at follows
      have other := (ends c follows).2
      simp only [List.mem_cons, not_or] at other
      exact ⟨other.2.2.2.1, other.2.2.2.2.1⟩
    unfold Loose.readMagnitude
    split
    · simp_all
    · simp_all
    · exact decimal
  have sign : readSign ['+', '-'] (first :: more ++ rest) = ([], first :: more ++ rest) :=
    readSign_append (.inl rfl) fun c leading => by
      obtain rfl : first = c := Option.some.inj leading
      exact digit
  have step : lexer.next first (more ++ rest) = some (some (.numeral (Number.whole n).text), rest) := by
    have numeral : Loose.readNumeral (first :: more ++ rest) = some (.numeral (Number.whole n).text, rest) := by
      rw [Loose.readNumeral, sign]
      simp only [magnitude]
      rw [← String.ofList_toList (s := (Number.whole n).text), shown]
      rfl
    show Loose.next first (more ++ rest) = _
    rw [next_of_isDigit digit, ← List.cons_append, numeral]
    rfl
  rw [shown]
  exact .of_next step

end TagMenu.Json
