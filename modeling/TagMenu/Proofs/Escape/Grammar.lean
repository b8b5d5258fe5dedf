import Mathlib
import TagMenu.Proofs.Escape.Seam
import TagMenu.Proofs.Escape.Spelling

namespace TagMenu.Escape

open Text (width numeral)
open Unicode (NameTable)

variable {names : NameTable} {chars rest tail text written digits escape meaning name : List Char}
  {values : List Nat} {reason : Fault} {letter c : Char} {start offset count missing expected value : Nat}

def IsOctalDigit (value : Nat) (c : Char) : Prop := value < 8 ∧ c = value.digitChar

def Ended (IsDigit : Nat → Char → Prop) (chars : List Char) : Prop :=
  ∀ next ∈ chars.head?, ∀ value, ¬ IsDigit value next

/-- The characters that begin an escape behind a backslash. -/
def Opens (c : Char) : Prop :=
  c = '\n' ∨ (∃ named, (c, named) ∈ shortForms) ∨ (∃ count, (c, count) ∈ hexForms) ∨ c = 'N' ∨
    ∃ value, IsOctalDigit value c

/-- What stands behind a backslash as an escape, if it is followed by `rest`, and the text that it gives. -/
inductive Recognised (names : NameTable) (rest : List Char) : List Char → List Char → Prop
  | broken : Recognised names rest ['\n'] []
  | short {letter c : Char} (known : (letter, c) ∈ shortForms) : Recognised names rest [letter] [c]
  | hex {letter c : Char} {count : Nat} {values : List Nat} {digits : List Char} (known : (letter, count) ∈ hexForms)
      (written : List.Forall₂ IsHexDigit values digits) (all : digits.length = count)
      (denoted : numeral 16 values = c.toNat) : Recognised names rest (letter :: digits) [c]
  | octal {c : Char} {values : List Nat} {digits : List Char} (written : List.Forall₂ IsOctalDigit values digits)
      (nonempty : 0 < digits.length) (most : digits.length ≤ 3) (ended : digits.length < 3 → Ended IsOctalDigit rest)
      (denoted : numeral 8 values = c.toNat) : Recognised names rest digits [c]
  | name {c : Char} {name : List Char} (nonempty : name ≠ []) (closed : '\x7d' ∉ name)
      (known : names (String.ofList name) = some c) :
      Recognised names rest ('N' :: '\x7b' :: name ++ ['\x7d']) [c]

/-- The texts that have a meaning. A backslash that begins no escape stands for itself. -/
inductive Means (names : NameTable) : List Char → List Char → Prop
  | nothing : Means names [] []
  | itself {c : Char} {chars text : List Char} (ordinary : c ≠ '\\') (means : Means names chars text) :
      Means names (c :: chars) (c :: text)
  | kept {c : Char} {chars text : List Char} (unknown : ¬ Opens c) (means : Means names chars text) :
      Means names ('\\' :: c :: chars) ('\\' :: c :: text)
  | escape {escape meaning chars text : List Char} (recognised : Recognised names chars escape meaning)
      (means : Means names chars text) : Means names ('\\' :: escape ++ chars) (meaning ++ text)

/-- What can stand behind a backslash instead of an escape. -/
inductive HasFault (names : NameTable) : List Char → Fault → Prop
  | trailingBackslash : HasFault names [] .trailingBackslash
  | truncatedHex {letter : Char} {count : Nat} {values : List Nat} {digits rest : List Char}
      (known : (letter, count) ∈ hexForms) (written : List.Forall₂ IsHexDigit values digits)
      (few : digits.length < count) (ended : Ended IsHexDigit rest) :
      HasFault names (letter :: digits ++ rest) (.truncatedHex letter count)
  | malformedName {chars : List Char}
      (nameless : ∀ name rest, chars = '\x7b' :: name ++ '\x7d' :: rest → '\x7d' ∉ name → name = []) :
      HasFault names ('N' :: chars) .malformedName
  | unknownName {name rest : List Char} (nonempty : name ≠ []) (closed : '\x7d' ∉ name)
      (unknown : names (String.ofList name) = none) :
      HasFault names ('N' :: '\x7b' :: name ++ '\x7d' :: rest) (.unknownName (String.ofList name))
  | invalidCodePoint {letter : Char} {count : Nat} {values : List Nat} {digits rest : List Char}
      (known : (letter, count) ∈ hexForms) (wide : letter ≠ 'x') (written : List.Forall₂ IsHexDigit values digits)
      (all : digits.length = count)
      (invalid : (0xD800 ≤ numeral 16 values ∧ numeral 16 values ≤ 0xDFFF) ∨ 0x10FFFF < numeral 16 values) :
      HasFault names (letter :: digits ++ rest) (.invalidCodePoint (numeral 16 values))

theorem isOctalDigit_of_octalValue? (digit : Text.octalValue? c = some value) : IsOctalDigit value c := by
  unfold Text.octalValue? at digit
  simp only [Bool.and_eq_true, decide_eq_true_eq] at digit
  split at digit
  · rename_i range
    obtain rfl := Option.some.inj digit
    exact between (P := IsOctalDigit) (by unfold IsOctalDigit; decide) range.1 range.2
  · cases digit

theorem octalValue?_of_digit (digit : IsOctalDigit value c) : Text.octalValue? c = some value := by
  have digits : ∀ value < 8, Text.octalValue? value.digitChar = some value := by decide
  obtain ⟨bound, rfl⟩ := digit
  exact digits value bound

theorem digits_or_ended (IsDigit : Nat → Char → Prop) (count : Nat) (chars : List Char) :
    ∃ values digits rest, chars = digits ++ rest ∧ List.Forall₂ IsDigit values digits ∧
      (digits.length = count ∨ digits.length < count ∧ Ended IsDigit rest) := by
  induction count generalizing chars with
  | zero => exact ⟨[], [], chars, rfl, .nil, .inl rfl⟩
  | succ count ih =>
    by_cases digit : ∃ next ∈ chars.head?, ∃ value, IsDigit value next
    · obtain ⟨next, first, value, digit⟩ := digit
      obtain ⟨behind, rfl⟩ : ∃ behind, chars = next :: behind := List.head?_eq_some_iff.mp first
      obtain ⟨values, digits, rest, rfl, written, long⟩ := ih behind
      refine ⟨value :: values, next :: digits, rest, rfl, .cons digit written, ?_⟩
      simpa using long
    · refine ⟨[], [], chars, rfl, .nil, .inr ⟨Nat.succ_pos count, ?_⟩⟩
      intro next first value here
      exact digit ⟨next, first, value, here⟩

theorem numeral_lt {IsDigit : Nat → Char → Prop} {base : Nat} (small : ∀ value c, IsDigit value c → value < base)
    (written : List.Forall₂ IsDigit values digits) : numeral base values < base ^ digits.length := by
  have below (value : Nat) : values.foldl (· * base + ·) value < (value + 1) * base ^ digits.length := by
    induction written generalizing value with
    | nil => simp
    | @cons first c values digits digit written ih =>
      have bound := small first c digit
      have step : (value * base + first + 1) ≤ (value + 1) * base := by
        rw [Nat.add_mul, Nat.one_mul]
        omega
      calc values.foldl (· * base + ·) (value * base + first)
          < (value * base + first + 1) * base ^ digits.length := ih _
        _ ≤ (value + 1) * base * base ^ digits.length := Nat.mul_le_mul_right _ step
        _ = (value + 1) * base ^ (c :: digits).length := by rw [List.length_cons, Nat.pow_succ']; ring
  simpa [numeral] using below 0

theorem width_append (chars rest : List Char) : width (chars ++ rest) = width chars + width rest := by
  simp only [width_eq, String.utf8Len_append]

theorem decodeFrom_inside {reading next : Reading} (stepped : step names reading c = .ok (text, next))
    (inside : next ≠ .backslash) :
    decodeFrom names reading start offset (c :: rest) =
      (decodeFrom names next start (offset + c.utf8Size) rest).map (text ++ ·) := by
  rw [decodeFrom_of_step stepped, if_neg inside]

theorem decodeFrom_silent {reading next : Reading} (stepped : step names reading c = .ok ([], next))
    (inside : next ≠ .backslash) :
    decodeFrom names reading start offset (c :: rest) = decodeFrom names next start (offset + c.utf8Size) rest := by
  rw [decodeFrom_inside stepped inside]
  cases decodeFrom names next start (offset + c.utf8Size) rest <;> rfl

theorem decodeFrom_opened :
    decodeFrom names .plain start offset ('\\' :: rest) = decodeFrom names .backslash offset (offset + 1) rest := by
  rw [decodeFrom_of_step step_plain_open, if_pos rfl]
  show (decodeFrom names .backslash offset (offset + 1) rest).map ([] ++ ·) = _
  cases decodeFrom names .backslash offset (offset + 1) rest <;> rfl

theorem decodeFrom_announced (names : NameTable) (start offset : Nat) (rest : List Char)
    (known : (letter, count) ∈ hexForms) :
    ∃ missing, count = missing + 1 ∧ Room missing 0 ∧ decodeFrom names .backslash start offset (letter :: rest) =
      decodeFrom names (.hex letter count missing 0) start (offset + letter.utf8Size) rest := by
  have forms : ∀ form ∈ hexForms, readEscaped form.1 = ([], .hex form.1 form.2 (form.2 - 1) 0) ∧ 0 < form.2 := by
    decide
  obtain ⟨announced, positive⟩ := forms _ known
  obtain ⟨missing, rfl⟩ := Nat.exists_eq_add_one.mpr positive
  exact ⟨missing, rfl, room_of_hexForms known, decodeFrom_silent (congrArg Except.ok announced) (by simp)⟩

theorem decodeFrom_truncated (written : List.Forall₂ IsHexDigit values digits) (few : digits.length ≤ missing)
    (ended : Ended IsHexDigit rest) (room : Room missing value) :
    decodeFrom names (.hex letter expected missing value) start offset (digits ++ rest) =
      .error ⟨.truncatedHex letter expected, start⟩ := by
  induction written generalizing missing value offset with
  | nil =>
    cases rest with
    | nil => rfl
    | cons next rest =>
      have none : Text.hexValue? next = none := by
        cases digit : Text.hexValue? next with
        | none => rfl
        | some value => exact absurd (isHexDigit_of_hexValue? digit) (ended next rfl value)
      have stepped : step names (.hex letter expected missing value) next = .error (.truncatedHex letter expected) := by
        simp only [step, none]
      exact decodeFrom_of_fault stepped
  | @cons first c values digits digit written ih =>
    obtain ⟨missing, rfl⟩ := Nat.exists_eq_add_one.mpr (Nat.lt_of_lt_of_le (Nat.succ_pos _) few)
    rw [List.cons_append, decodeFrom_silent (step_digit digit room) (by simp)]
    exact ih (Nat.le_of_succ_le_succ few) (room.next digit.1)

theorem decodeFrom_digits (written : List.Forall₂ IsHexDigit values digits) (all : digits.length = missing + 1)
    (room : Room missing value) :
    decodeFrom names (.hex letter expected missing value) start offset (digits ++ rest) =
      ((characterOf (values.foldl (· * 16 + ·) value)).mapError (⟨·, start⟩)).bind fun text =>
        (decodeFrom names .plain start (offset + width digits) rest).map (text ++ ·) := by
  induction missing generalizing value offset values digits with
  | zero =>
    obtain ⟨c, rfl⟩ := List.length_eq_one_iff.mp all
    obtain ⟨first, _, digit, none, rfl⟩ := List.forall₂_cons_right_iff.mp written
    cases none
    have stepped : step names (.hex letter expected 0 value) c =
        (characterOf (value * 16 + first)).map fun text => (text, .plain) := step_last_digit digit room
    simp only [List.foldl_cons, List.foldl_nil, List.singleton_append]
    cases denoted : characterOf (value * 16 + first) with
    | error fault =>
      rw [denoted] at stepped
      exact decodeFrom_of_fault stepped
    | ok text =>
      rw [denoted] at stepped
      rw [decodeFrom_inside stepped (by simp)]
      rfl
  | succ missing ih =>
    obtain ⟨c, others, rfl⟩ := List.exists_cons_of_length_eq_add_one all
    obtain ⟨first, _, digit, behind, rfl⟩ := List.forall₂_cons_right_iff.mp written
    have fewer : others.length = missing + 1 := by simpa using all
    rw [List.cons_append, decodeFrom_silent (step_digit digit room) (by simp), ih behind fewer (room.next digit.1),
      List.foldl_cons, width, Nat.add_assoc]

theorem decodeFrom_hexEscape (known : (letter, count) ∈ hexForms) (written : List.Forall₂ IsHexDigit values digits)
    (all : digits.length = count) :
    decodeFrom names .backslash start offset (letter :: digits ++ rest) =
      ((characterOf (numeral 16 values)).mapError (⟨·, start⟩)).bind fun text =>
        (decodeFrom names .plain start (offset + width (letter :: digits)) rest).map (text ++ ·) := by
  obtain ⟨missing, rfl, room, announced⟩ := decodeFrom_announced names start offset (digits ++ rest) known
  rw [List.cons_append, announced, decodeFrom_digits written all room, width, ← Nat.add_assoc]
  rfl

theorem decodeFrom_inName (closed : '\x7d' ∉ name) (reversed : List Char) :
    decodeFrom names (.name reversed) start offset (name ++ rest) =
      decodeFrom names (.name (name.reverse ++ reversed)) start (offset + width name) rest := by
  induction name generalizing reversed offset with
  | nil => rfl
  | cons c name ih =>
    simp only [List.mem_cons, not_or] at closed
    have stepped : step names (.name reversed) c = .ok ([], .name (c :: reversed)) := by
      rw [step, if_neg (Ne.symm closed.1)]
    rw [List.cons_append, decodeFrom_silent stepped (by simp), ih closed.2, width, Nat.add_assoc]
    simp

theorem decodeFrom_name (closed : '\x7d' ∉ name) :
    decodeFrom names .backslash start offset ('N' :: '\x7b' :: (name ++ rest)) =
      decodeFrom names (.name name.reverse) start (offset + width ('N' :: '\x7b' :: name)) rest := by
  have letter : step names .backslash 'N' = .ok ([], .nameStart) := rfl
  have brace : step names .nameStart '\x7b' = .ok ([], .name []) := rfl
  rw [decodeFrom_silent letter (by simp), decodeFrom_silent brace (by simp), decodeFrom_inName closed, List.append_nil,
    width, width, Nat.add_assoc, Nat.add_assoc]

theorem characterOf_of_denoted (denoted : value = c.toNat) : characterOf value = .ok [c] := by
  rw [denoted, characterOf_toNat]

theorem decodeFrom_octal {left : Nat} (written : List.Forall₂ IsOctalDigit values digits)
    (most : digits.length ≤ left + 1) (ended : digits.length < left + 1 → Ended IsOctalDigit rest)
    (denoted : values.foldl (· * 8 + ·) value = c.toNat) :
    decodeFrom names (.octal left value) start offset (digits ++ rest) =
      (decodeFrom names .plain start (offset + width digits) rest).map ([c] ++ ·) := by
  induction written generalizing left value offset with
  | nil =>
    refine decodeFrom_after (characterOf_of_denoted denoted) fun _ _ _ next first octal => ?_
    have digit : Text.octalValue? next = some (next.toNat - '0'.toNat) := by
      rw [Text.octalValue?, if_pos (by simpa [IsOctal] using octal)]
    exact ended (Nat.succ_pos left) next first _ (isOctalDigit_of_octalValue? digit)
  | @cons first digit values digits octal written ih =>
    cases left with
    | zero =>
      obtain rfl : digits = [] := List.eq_nil_of_length_eq_zero (by simpa using most)
      cases written
      have last : characterOf (value * 8 + first) = .ok [c] := characterOf_of_denoted denoted
      have stepped : step names (.octal 0 value) digit = .ok ([c], .plain) := by
        simp only [step, octalValue?_of_digit octal, last]
        rfl
      rw [List.singleton_append, decodeFrom_inside stepped (by simp)]
      rfl
    | succ left =>
      have stepped : step names (.octal (left + 1) value) digit = .ok ([], .octal left (value * 8 + first)) := by
        rw [step, octalValue?_of_digit octal]
      have fewer : digits.length ≤ left + 1 := by simpa using most
      rw [List.cons_append, decodeFrom_silent stepped (by simp),
        ih fewer (fun short => ended (Nat.succ_lt_succ short)) denoted, width, Nat.add_assoc]

theorem decodeFrom_octalEscape (written : List.Forall₂ IsOctalDigit values digits) (nonempty : 0 < digits.length)
    (most : digits.length ≤ 3) (ended : digits.length < 3 → Ended IsOctalDigit rest)
    (denoted : numeral 8 values = c.toNat) :
    decodeFrom names .backslash start offset (digits ++ rest) =
      (decodeFrom names .plain start (offset + width digits) rest).map ([c] ++ ·) := by
  cases written with
  | nil => cases nonempty
  | @cons first digit values digits octal written =>
    have opening : ∀ value < 8, readEscaped value.digitChar = ([], .octal 1 value) := by decide
    obtain ⟨bound, rfl⟩ := octal
    have stepped : step names .backslash first.digitChar = .ok ([], .octal 1 first) :=
      congrArg Except.ok (opening first bound)
    have total : values.foldl (· * 8 + ·) first = c.toNat := by simpa [numeral] using denoted
    rw [List.cons_append, decodeFrom_silent stepped (by simp), decodeFrom_octal written (Nat.le_of_succ_le_succ most)
      (fun short => ended (Nat.succ_lt_succ short)) total, width, Nat.add_assoc]

theorem Recognised.decodeFrom (recognised : Recognised names rest escape meaning) :
    Escape.decodeFrom names .plain start offset ('\\' :: escape ++ rest) =
      (Escape.decodeFrom names .plain start (offset + width ('\\' :: escape)) rest).map (meaning ++ ·) := by
  rw [decodeFrom_plain start offset, decodeFrom_plain start offset, List.cons_append, decodeFrom_opened, width,
    ← Nat.add_assoc]
  show _ = (Escape.decodeFrom names .plain offset (offset + 1 + width escape) rest).map (meaning ++ ·)
  cases recognised with
  | broken =>
    have stepped : step names .backslash '\n' = .ok ([], .plain) := rfl
    rw [List.singleton_append, decodeFrom_inside stepped (by simp)]
    rfl
  | @short letter c known =>
    have forms : ∀ form ∈ shortForms, readEscaped form.1 = ([form.2], .plain) := by decide
    have stepped : step names .backslash letter = .ok ([c], .plain) := congrArg Except.ok (forms _ known)
    rw [List.singleton_append, decodeFrom_inside stepped (by simp)]
    rfl
  | hex known written all denoted =>
    rw [decodeFrom_hexEscape known written all, characterOf_of_denoted denoted]
    rfl
  | octal written nonempty most ended denoted => exact decodeFrom_octalEscape written nonempty most ended denoted
  | @name c name nonempty closed known =>
    have stepped : step names (.name name.reverse) '\x7d' = .ok ([c], .plain) := by
      rw [step, if_pos rfl, if_neg (by simpa using nonempty)]
      simp [known]
    have text : 'N' :: '\x7b' :: name ++ ['\x7d'] ++ rest = 'N' :: '\x7b' :: (name ++ '\x7d' :: rest) := by simp
    rw [text, decodeFrom_name closed, decodeFrom_inside stepped (by simp), width_append, ← Nat.add_assoc]
    rfl

theorem characterOf_invalid (invalid : (0xD800 ≤ value ∧ value ≤ 0xDFFF) ∨ 0x10FFFF < value) :
    characterOf value = .error (.invalidCodePoint value) := by
  have surrogate : ¬ value.isValidChar := by
    rintro (low | ⟨high, bound⟩) <;> omega
  rw [characterOf, Text.scalar?, dif_neg surrogate]

theorem HasFault.decodeFrom (fault : HasFault names chars reason) :
    Escape.decodeFrom names .plain start offset ('\\' :: chars) = .error ⟨reason, offset⟩ := by
  rw [decodeFrom_opened]
  cases fault with
  | trailingBackslash => rfl
  | @truncatedHex letter count values digits rest known written few ended =>
    obtain ⟨missing, rfl, room, announced⟩ := decodeFrom_announced names offset (offset + 1) (digits ++ rest) known
    rw [List.cons_append, announced, decodeFrom_truncated written (Nat.le_of_lt_succ few) ended room]
  | @malformedName chars nameless =>
    by_cases brace : ∃ behind, chars = '\x7b' :: behind
    · obtain ⟨behind, rfl⟩ := brace
      by_cases closed : '\x7d' ∈ behind
      · obtain ⟨name, rest, rfl, free⟩ := List.eq_append_cons_of_mem closed
        obtain rfl := nameless name rest rfl free
        exact (decodeFrom_name List.not_mem_nil).trans (decodeFrom_of_fault rfl)
      · rw [← List.append_nil behind, decodeFrom_name closed]
        rfl
    · have letter : step names .backslash 'N' = .ok ([], .nameStart) := rfl
      rw [decodeFrom_silent letter (by simp)]
      cases chars with
      | nil => rfl
      | cons c chars =>
        have other : c ≠ '\x7b' := fun same => brace ⟨chars, same ▸ rfl⟩
        exact decodeFrom_of_fault (by rw [step, if_neg other])
  | @unknownName name rest nonempty closed unknown =>
    have stepped : step names (.name name.reverse) '\x7d' = .error (.unknownName (String.ofList name)) := by
      rw [step, if_pos rfl, if_neg (by simpa using nonempty)]
      simp [unknown]
    exact (decodeFrom_name closed).trans (decodeFrom_of_fault stepped)
  | invalidCodePoint known wide written all invalid =>
    rw [decodeFrom_hexEscape known written all, characterOf_invalid invalid]
    rfl

theorem simple?_eq_none (unknown : ¬ Opens c) : simple? c = none := by
  have listed : simple? c ≠ none → c = '\n' ∨ c ∈ shortForms.map (·.1) := by
    unfold simple?
    split <;> first | exact fun none => absurd rfl none | exact fun _ => by decide
  by_contra known
  rcases listed known with rfl | short
  · exact unknown (.inl rfl)
  · obtain ⟨form, member, rfl⟩ := List.mem_map.mp short
    exact unknown (.inr (.inl ⟨form.2, member⟩))

theorem hexDigits?_eq_none (unknown : ¬ Opens c) : hexDigits? c = none := by
  have listed : hexDigits? c ≠ none → c ∈ hexForms.map (·.1) := by
    unfold hexDigits?
    split <;> first | exact fun none => absurd rfl none | exact fun _ => by decide
  by_contra known
  obtain ⟨form, member, rfl⟩ := List.mem_map.mp (listed known)
  exact unknown (.inr (.inr (.inl ⟨form.2, member⟩)))

theorem decodeFrom_kept (unknown : ¬ Opens c) :
    decodeFrom names .plain start offset ('\\' :: c :: rest) =
      (decodeFrom names .plain start (offset + width ['\\', c]) rest).map (['\\', c] ++ ·) := by
  have letter : c ≠ 'N' := fun same => unknown (.inr (.inr (.inr (.inl same))))
  have octal : Text.octalValue? c = none := by
    cases digit : Text.octalValue? c with
    | none => rfl
    | some value => exact absurd (.inr (.inr (.inr (.inr ⟨value, isOctalDigit_of_octalValue? digit⟩)))) unknown
  have stepped : step names .backslash c = .ok (['\\', c], .plain) := by
    rw [step, readEscaped, simple?_eq_none unknown, hexDigits?_eq_none unknown]
    simp only [if_neg letter, octal]
  rw [decodeFrom_opened, decodeFrom_inside stepped (by simp), decodeFrom_plain offset start, Nat.add_assoc]
  rfl

/-- What may follow a text without going on with the escape at its end. -/
theorem Recognised.congr (recognised : Recognised names rest escape meaning)
    (same : Ended IsOctalDigit rest → Ended IsOctalDigit tail) : Recognised names tail escape meaning := by
  cases recognised with
  | broken => exact .broken
  | short known => exact .short known
  | hex known written all denoted => exact .hex known written all denoted
  | octal written nonempty most ended denoted =>
    exact .octal written nonempty most (fun short => same (ended short)) denoted
  | name nonempty closed known => exact .name nonempty closed known

theorem ended_nil : Ended IsOctalDigit [] := by
  intro next first
  cases first

theorem ended_append (ended : Ended IsOctalDigit chars) (apart : Ended IsOctalDigit tail) :
    Ended IsOctalDigit (chars ++ tail) := by
  cases chars with
  | nil => exact apart
  | cons c chars => exact ended

theorem Ended.of_append (ended : Ended IsOctalDigit (chars ++ tail)) : Ended IsOctalDigit chars := by
  cases chars with
  | nil => exact ended_nil
  | cons c chars => exact ended

theorem Means.decodeFrom (means : Means names chars text) (apart : Ended IsOctalDigit tail) :
    Escape.decodeFrom names .plain start offset (chars ++ tail) =
      (Escape.decodeFrom names .plain start (offset + width chars) tail).map (text ++ ·) := by
  induction means generalizing offset with
  | nothing => cases decoded : Escape.decodeFrom names .plain start offset tail <;> simp [width, decoded, Except.map]
  | itself ordinary means ih =>
    rw [List.cons_append, decodeFrom_inside (step_plain_itself ordinary) (by simp), ih, map_append, width,
      Nat.add_assoc]
    rfl
  | kept unknown means ih =>
    rw [List.cons_append, List.cons_append, decodeFrom_kept unknown, ih, map_append, Nat.add_assoc, ← width_append]
    rfl
  | escape recognised means ih =>
    rw [List.append_assoc, (recognised.congr (ended_append · apart)).decodeFrom, ih, map_append, Nat.add_assoc,
      ← width_append]

theorem exists_character (valid : value.isValidChar) : ∃ c : Char, value = c.toNat :=
  ⟨Char.ofNat value, by rw [Char.toNat_ofNat, if_pos valid]⟩

def Judged (names : NameTable) (chars : List Char) : Prop :=
  (∃ reason, HasFault names chars reason) ∨
    ∃ escape rest meaning, chars = escape ++ rest ∧ Recognised names rest escape meaning

theorem judged_hex (known : (letter, count) ∈ hexForms) (chars : List Char) : Judged names (letter :: chars) := by
  obtain ⟨values, digits, rest, rfl, written, all | ⟨few, ended⟩⟩ := digits_or_ended IsHexDigit count chars
  · by_cases valid : (numeral 16 values).isValidChar
    · obtain ⟨c, denoted⟩ := exists_character valid
      exact .inr ⟨letter :: digits, rest, [c], rfl, .hex known written all denoted⟩
    · have range : (0xD800 ≤ numeral 16 values ∧ numeral 16 values ≤ 0xDFFF) ∨ 0x10FFFF < numeral 16 values := by
        simp only [Nat.isValidChar, not_or, not_and] at valid
        omega
      have wide : letter ≠ 'x' := by
        rintro rfl
        have two : count = 2 := by simpa [hexForms] using known
        have bound : numeral 16 values < 16 ^ digits.length := numeral_lt (fun _ _ digit => digit.1) written
        rw [all, two] at bound
        omega
      exact .inl ⟨_, .invalidCodePoint known wide written all range⟩
  · exact .inl ⟨_, .truncatedHex known written few ended⟩

theorem judged_octal (digit : IsOctalDigit value c) (chars : List Char) : Judged names (c :: chars) := by
  obtain ⟨values, digits, rest, split, written, long⟩ := digits_or_ended IsOctalDigit 3 (c :: chars)
  have most : digits.length ≤ 3 := by
    rcases long with all | ⟨few, -⟩ <;> omega
  have ended : digits.length < 3 → Ended IsOctalDigit rest := by
    rcases long with all | ⟨-, ended⟩
    · omega
    · exact fun _ => ended
  have nonempty : 0 < digits.length := by
    by_contra none
    obtain rfl : digits = [] := List.eq_nil_of_length_eq_zero (by omega)
    exact ended (by simp) c (by rw [← List.nil_append rest, ← split]; rfl) value digit
  have bound : numeral 8 values < 8 ^ digits.length := numeral_lt (fun _ _ digit => digit.1) written
  have small : numeral 8 values < 8 ^ 3 := Nat.lt_of_lt_of_le bound (Nat.pow_le_pow_right (by decide) most)
  have valid : (numeral 8 values).isValidChar := .inl (by omega)
  obtain ⟨named, denoted⟩ := exists_character valid
  exact .inr ⟨digits, rest, [named], split, .octal written nonempty most ended denoted⟩

theorem judged_name (chars : List Char) : Judged names ('N' :: chars) := by
  by_cases named : ∃ name rest, chars = '\x7b' :: name ++ '\x7d' :: rest ∧ '\x7d' ∉ name ∧ name ≠ []
  · obtain ⟨name, rest, rfl, closed, nonempty⟩ := named
    cases found : names (String.ofList name) with
    | none => exact .inl ⟨_, .unknownName nonempty closed found⟩
    | some c => exact .inr ⟨_, rest, [c], by simp, .name nonempty closed found⟩
  · refine .inl ⟨_, .malformedName fun name rest split closed => ?_⟩
    by_contra nonempty
    exact named ⟨name, rest, split, closed, nonempty⟩

theorem Opens.judged (opens : Opens c) (chars : List Char) : Judged names (c :: chars) := by
  rcases opens with rfl | ⟨named, known⟩ | ⟨count, known⟩ | rfl | ⟨value, digit⟩
  · exact .inr ⟨['\n'], chars, [], rfl, .broken⟩
  · exact .inr ⟨[c], chars, [named], rfl, .short known⟩
  · exact judged_hex known chars
  · exact judged_name chars
  · exact judged_octal digit chars

def Faulty (names : NameTable) (chars : List Char) : Prop :=
  ∃ before after text reason, chars = before ++ '\\' :: after ∧ Means names before text ∧ HasFault names after reason

/-- What stands in front of a text, and may stand in front of its first part, does not change whether the text has
    a meaning. -/
theorem means_or_faulty_append (first : List Char)
    (add : ∀ tail text, (Ended IsOctalDigit rest → Ended IsOctalDigit tail) → Means names tail text →
      ∃ more, Means names (first ++ tail) more)
    (judged : (∃ text, Means names rest text) ∨ Faulty names rest) :
    (∃ text, Means names (first ++ rest) text) ∨ Faulty names (first ++ rest) := by
  rcases judged with ⟨text, means⟩ | ⟨before, after, text, reason, rfl, means, fault⟩
  · exact .inl (add rest text id means)
  · obtain ⟨more, means⟩ := add before text Ended.of_append means
    exact .inr ⟨first ++ before, after, more, reason, (List.append_assoc _ _ _).symm, means, fault⟩

theorem means_or_faulty (names : NameTable) (chars : List Char) :
    (∃ text, Means names chars text) ∨ Faulty names chars := by
  rcases chars with _ | ⟨c, chars⟩
  · exact .inl ⟨[], .nothing⟩
  · by_cases ordinary : c ≠ '\\'
    · exact means_or_faulty_append [c] (fun _ _ _ means => ⟨_, .itself ordinary means⟩)
        (means_or_faulty names chars)
    · obtain rfl : c = '\\' := not_not.mp ordinary
      rcases chars with _ | ⟨letter, chars⟩
      · exact .inr ⟨[], [], [], _, rfl, .nothing, .trailingBackslash⟩
      · by_cases opens : Opens letter
        · have judged : Judged names (letter :: chars) := opens.judged chars
          rcases judged with ⟨reason, fault⟩ | ⟨escape, rest, meaning, split, recognised⟩
          · exact .inr ⟨[], letter :: chars, [], reason, rfl, .nothing, fault⟩
          · have shorter : rest.length ≤ chars.length + 1 := by
              rw [← List.length_cons (a := letter), split, List.length_append]
              omega
            rw [split, ← List.cons_append]
            exact means_or_faulty_append _ (fun _ _ ended means => ⟨_, .escape (recognised.congr ended) means⟩)
              (means_or_faulty names rest)
        · exact means_or_faulty_append ['\\', letter] (fun _ _ _ means => ⟨_, .kept opens means⟩)
            (means_or_faulty names chars)
termination_by chars.length

theorem ended_backslash : Ended IsOctalDigit ('\\' :: chars) := by
  intro next first value digit
  obtain rfl : '\\' = next := Option.some.inj first
  cases octalValue?_of_digit digit

theorem Means.decoded (means : Means names chars text) :
    Escape.decodeFrom names .plain start offset chars = .ok text := by
  have whole : Escape.decodeFrom names .plain start offset (chars ++ []) = _ := means.decodeFrom ended_nil
  rw [List.append_nil, decodeFrom_nil, finish_plain] at whole
  simpa [Except.map, Except.mapError] using whole

theorem Means.refused (means : Means names chars text) (fault : HasFault names tail reason) :
    Escape.decodeFrom names .plain start offset (chars ++ '\\' :: tail) = .error ⟨reason, offset + width chars⟩ := by
  rw [means.decodeFrom ended_backslash, fault.decodeFrom]
  rfl

theorem decodeFrom_eq_ok_iff : decodeFrom names .plain start offset chars = .ok text ↔ Means names chars text := by
  refine ⟨fun read => ?_, Means.decoded⟩
  rcases means_or_faulty names chars with ⟨other, means⟩ | ⟨before, after, other, reason, rfl, means, fault⟩
  · rw [means.decoded] at read
    obtain rfl := Except.ok.inj read
    exact means
  · rw [means.refused fault] at read
    cases read

theorem decodeFrom_eq_error_iff {error : Error} :
    decodeFrom names .plain start offset chars = .error error ↔ ∃ before after text, chars = before ++ '\\' :: after ∧
      Means names before text ∧ HasFault names after error.fault ∧ error.offset = offset + width before := by
  constructor
  · intro read
    rcases means_or_faulty names chars with ⟨other, means⟩ | ⟨before, after, other, reason, rfl, means, fault⟩
    · rw [means.decoded] at read
      cases read
    · rw [means.refused fault] at read
      obtain rfl := Except.error.inj read
      exact ⟨before, after, other, rfl, means, fault, rfl⟩
  · rintro ⟨before, after, text, rfl, means, fault, place⟩
    rw [means.refused fault, ← place]

theorem decode_eq_ok_iff {written decoded : String} :
    decode names written = .ok decoded ↔ Means names written.toList decoded.toList := by
  have whole : decodeFrom names .plain 0 0 written.toList = .ok decoded.toList ↔ _ := decodeFrom_eq_ok_iff
  rw [← whole, decode_eq_decodeAll, decodeAll]
  cases decodeFrom names .plain 0 0 written.toList with
  | error error => refine ⟨fun read => ?_, fun read => ?_⟩ <;> cases read
  | ok chars => simp [Except.map, ← String.toList_inj]

theorem decode_eq_error_iff {written : String} {error : Error} :
    decode names written = .error error ↔ ∃ before after text, written.toList = before ++ '\\' :: after ∧
      Means names before text ∧ HasFault names after error.fault ∧ error.offset = width before := by
  have whole : decodeFrom names .plain 0 0 written.toList = .error error ↔ _ := decodeFrom_eq_error_iff
  simp only [Nat.zero_add] at whole
  rw [← whole, decode_eq_decodeAll, decodeAll]
  cases decodeFrom names .plain 0 0 written.toList with
  | error other => simp [Except.map]
  | ok chars => refine ⟨fun read => ?_, fun read => ?_⟩ <;> cases read

end TagMenu.Escape
