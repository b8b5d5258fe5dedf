import Mathlib
import TagMenu.Proofs.Escape.Reads

namespace TagMenu.Escape

open Text (width)
open Unicode (NameTable)

variable {names : NameTable} {reading next : Reading} {chars rest text more tail : List Char}
  {start offset left value : Nat} {c : Char}

def IsOctal (c : Char) : Prop := '0' ≤ c ∧ c ≤ '7'

def Decodable (names : NameTable) (chars : List Char) : Prop :=
  ∃ decoded, decode names (String.ofList chars) = .ok decoded

/-- The last escape of a text is an octal one of fewer than three digits, and the text ends with it. -/
def EndsInShortOctal (names : NameTable) (text : String) : Prop :=
  -- What stands before the backslash has no open escape, so this one begins an escape of its own.
  ∃ before digits : List Char, text.toList = before ++ '\\' :: digits ∧ Decodable names before ∧
    0 < digits.length ∧ digits.length < 3 ∧ ∀ digit ∈ digits, IsOctal digit

def StartsWithOctal (text : String) : Prop := ∃ digit ∈ text.toList.head?, IsOctal digit

theorem isOctal_of_octalValue? (digit : Text.octalValue? c = some value) : IsOctal c := by
  unfold Text.octalValue? at digit
  split at digit
  · rename_i range
    simpa [IsOctal] using range
  · cases digit

theorem octalValue?_eq_none (other : ¬ IsOctal c) : Text.octalValue? c = none := by
  cases digit : Text.octalValue? c with
  | none => rfl
  | some value => exact absurd (isOctal_of_octalValue? digit) other

/-- What has been read when reading stands behind a backslash or in the digits of an octal escape: before
    the escape, a text that can be decoded. -/
def Behind (names : NameTable) (chars : List Char) : Reading → Prop
  | .backslash => ∃ before, chars = before ++ ['\\'] ∧ Decodable names before
  | .octal left _ => ∃ before digits, chars = before ++ '\\' :: digits ∧ Decodable names before ∧
      0 < digits.length ∧ digits.length + left = 2 ∧ ∀ digit ∈ digits, IsOctal digit
  | _ => True

theorem Reads.decodable (reads : Reads names chars text reading) (finished : finish reading = .ok tail) :
    Decodable names chars :=
  ⟨_, Reads.decodes (by rwa [String.toList_ofList]) finished⟩

theorem behind_readPlain (decodable : Decodable names chars) (read : readPlain c = (more, next)) :
    Behind names (chars ++ [c]) next := by
  unfold readPlain at read
  split at read
  · rename_i opens
    subst opens
    cases read
    exact ⟨chars, rfl, decodable⟩
  · cases read
    trivial

theorem behind_readEscaped (behind : Behind names chars .backslash) (read : readEscaped c = (more, next)) :
    Behind names (chars ++ [c]) next := by
  obtain ⟨before, rfl, decodable⟩ := behind
  unfold readEscaped at read
  split at read
  · cases read
    trivial
  · split at read
    · cases read
      trivial
    · split at read
      · cases read
        trivial
      · split at read
        · rename_i value digit
          cases read
          exact ⟨before, [c], by simp, decodable, by simp, rfl, by simpa using isOctal_of_octalValue? digit⟩
        · cases read
          trivial

theorem behind_step (reads : Reads names chars text reading) (behind : Behind names chars reading)
    (stepped : step names reading c = .ok (more, next)) : Behind names (chars ++ [c]) next := by
  cases reading with
  | plain => exact behind_readPlain (reads.decodable finish_plain) (Except.ok.inj stepped)
  | backslash => exact behind_readEscaped behind (Except.ok.inj stepped)
  | hex letter expected missing value =>
    rw [step] at stepped
    split at stepped
    · cases stepped
    · split at stepped
      · cases stepped
      · split at stepped
        · obtain ⟨text, -, same⟩ := ok_of_map stepped
          cases same
          trivial
        · cases stepped
          trivial
  | nameStart =>
    rw [step] at stepped
    split at stepped
    · cases stepped
      trivial
    · cases stepped
  | name reversed =>
    rw [step] at stepped
    split at stepped
    · dsimp only at stepped
      split at stepped
      · cases stepped
      · split at stepped
        · cases stepped
          trivial
        · cases stepped
    · cases stepped
      trivial
  | octal left value =>
    rw [step] at stepped
    split at stepped
    · rename_i digit
      split at stepped
      · obtain ⟨text, -, same⟩ := ok_of_map stepped
        cases same
        trivial
      · obtain ⟨before, digits, rfl, decodable, some, count, octal⟩ := behind
        cases stepped
        refine ⟨before, digits ++ [c], by simp, decodable, by simp, ?_, ?_⟩
        · rw [List.length_append, List.length_singleton]
          omega
        · intro d member
          rcases List.mem_append.mp member with member | member
          · exact octal d member
          · rw [List.mem_singleton.mp member]
            exact isOctal_of_octalValue? digit
    · obtain ⟨tail, finished, same⟩ := ok_of_map stepped
      cases same
      exact behind_readPlain (reads.decodable finished) rfl

theorem behind_of_reads (reads : Reads names chars text reading) : Behind names chars reading := by
  induction reads with
  | start => trivial
  | next reads stepped ih => exact behind_step reads ih stepped

theorem endsInShortOctal_of_reads {written : String} (reads : Reads names written.toList text (.octal left value)) :
    EndsInShortOctal names written := by
  obtain ⟨before, digits, split, decodable, some, count, octal⟩ := behind_of_reads reads
  exact ⟨before, digits, split, decodable, some, by omega, octal⟩

theorem decodeFrom_after (finished : finish reading = .ok tail)
    (apart : ∀ left value, reading = .octal left value → ∀ c ∈ rest.head?, ¬ IsOctal c) :
    decodeFrom names reading start offset rest =
      (decodeFrom names .plain start offset rest).map (tail ++ ·) := by
  cases reading with
  | plain =>
    cases finished
    cases decodeFrom names .plain start offset rest <;> rfl
  | octal left value =>
    cases rest with
    | nil =>
      rw [decodeFrom_nil, finished, decodeFrom_nil]
      exact congrArg Except.ok (List.append_nil tail).symm
    | cons c rest =>
      have other := octalValue?_eq_none (apart left value rfl c rfl)
      have plain : step names .plain c = .ok ((readPlain c).1, (readPlain c).2) := rfl
      -- The character ends the octal escape and is then read as outside of escapes.
      have ended : characterOf value = .ok tail := finished
      have stepped : step names (.octal left value) c = .ok (tail ++ (readPlain c).1, (readPlain c).2) := by
        rw [step, other]
        dsimp only
        rw [ended]
        rfl
      rw [decodeFrom_of_step stepped, decodeFrom_of_step plain, map_append]
  | backslash | hex | nameStart | name => cases finished

theorem Reads.decodeFrom_behind (reads : Reads names chars text reading) (finished : finish reading = .ok tail)
    (apart : ∀ left value, reading = .octal left value → ∀ c ∈ rest.head?, ¬ IsOctal c) :
    decodeFrom names .plain 0 0 (chars ++ rest) =
      ((decodeFrom names .plain 0 0 rest).mapError (·.later (width chars))).map ((text ++ tail) ++ ·) := by
  obtain ⟨start, goesOn⟩ := reads.decodeFrom_append 0 0
  calc decodeFrom names .plain 0 0 (chars ++ rest)
      = (decodeFrom names reading start (0 + width chars) rest).map (text ++ ·) := goesOn rest
    _ = (decodeFrom names .plain start (0 + width chars) rest).map ((text ++ tail) ++ ·) := by
        rw [decodeFrom_after finished apart, map_append]
    _ = (decodeFrom names .plain (0 + width chars) (0 + width chars) rest).map ((text ++ tail) ++ ·) := by
        rw [decodeFrom_plain start (0 + width chars)]
    _ = ((decodeFrom names .plain 0 0 rest).mapError (·.later (width chars))).map ((text ++ tail) ++ ·) := by
        rw [decodeFrom_later]

/-- Decoding is the same with and without the short cut for texts that have no backslash, and it goes
    through two texts, one behind the other, as it goes through each of them. -/
theorem decode_append (names : NameTable) :
    (∀ text, decode names text = decodeAll names text) ∧
    ∀ first second decoded : String, decode names first = .ok decoded →
      ¬ (EndsInShortOctal names first ∧ StartsWithOctal second) →
      (∀ more, decode names second = .ok more → decode names (first ++ second) = .ok (decoded ++ more)) ∧
      (∀ error, decode names second = .error error →
        decode names (first ++ second) = .error (error.later first.utf8ByteSize)) := by
  refine ⟨decode_eq_decodeAll names, fun first second decoded ends apart => ?_⟩
  obtain ⟨text, last, tail, reads, finished, same⟩ := reads_of_decode ends
  have other : ∀ left value, last = .octal left value → ∀ digit ∈ second.toList.head?, ¬ IsOctal digit :=
    fun left value octal digit begins isOctal =>
      apart ⟨endsInShortOctal_of_reads (octal ▸ reads), digit, begins, isOctal⟩
  have whole := reads.decodeFrom_behind finished other
  rw [← String.toList_append, ← same, width_toList] at whole
  rw [decode_eq_decodeAll, decode_eq_decodeAll, decodeAll, decodeAll, whole]
  cases decodeFrom names .plain 0 0 second.toList with
  | error found =>
    constructor
    · intro more alone
      cases alone
    · intro error alone
      cases alone
      rfl
  | ok chars =>
    constructor
    · intro more alone
      cases alone
      exact congrArg Except.ok (by simp [String.ofList_append])
    · intro error alone
      cases alone

theorem decode_append_of_short_octal :
    let names : NameTable := fun _ => none
    decode names "é\\17" = .ok "é\x0f" ∧ EndsInShortOctal names "é\\17" ∧ ¬ StartsWithOctal "8\\x4" ∧
      decode names "8\\x4" = .error ⟨.truncatedHex 'x' 2, 1⟩ ∧
      decode names ("é\\17" ++ "8\\x4") = .error ⟨.truncatedHex 'x' 2, 6⟩ := by
  intro names
  have first : decode names "é\\17" = .ok "é\x0f" := by decide
  have second : decode names "8\\x4" = .error ⟨.truncatedHex 'x' 2, 1⟩ := by decide
  have other : ¬ StartsWithOctal "8\\x4" := by
    rintro ⟨digit, begins, -, octal⟩
    cases begins
    exact absurd octal (by decide)
  have short : EndsInShortOctal names "é\\17" :=
    ⟨['é'], ['1', '7'], rfl, ⟨"é", by decide⟩, by decide, by decide, by simp [IsOctal]⟩
  refine ⟨first, short, other, second, ?_⟩
  exact ((decode_append names).2 _ _ _ first fun seam => other seam.2).2 _ second

-- An octal digit is still taken by the escape before it, so the condition on the two texts is needed.
example : decode (fun _ => none) "\\17" = .ok "\x0f" ∧ decode (fun _ => none) ("\\17" ++ "1") = .ok "y" := by decide

end TagMenu.Escape
