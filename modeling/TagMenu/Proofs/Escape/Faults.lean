import Mathlib
import TagMenu.Proofs.Escape.Grammar

namespace TagMenu.Escape

open Text (width)
open Unicode (NameTable)

variable {names : NameTable}

/-- The text in front of the offset can be decoded, and behind a backslash at the offset stands the fault. -/
def FirstFault (names : NameTable) (written : String) (error : Error) : Prop :=
  ∃ before after : String, written = before ++ "\\" ++ after ∧ before.utf8ByteSize = error.offset ∧
    (∃ decoded, decode names before = .ok decoded) ∧ HasFault names after.toList error.fault

theorem error_iff_firstFault {written : String} {error : Error} :
    decode names written = .error error ↔ FirstFault names written error := by
  rw [decode_eq_error_iff]
  constructor
  · rintro ⟨before, after, text, split, means, fault, offset⟩
    refine ⟨String.ofList before, String.ofList after, ?_, ?_, ⟨String.ofList text, ?_⟩, ?_⟩
    · apply String.toList_injective
      simpa [String.toList_append] using split
    · rw [← width_toList, String.toList_ofList, offset]
    · rw [decode_eq_ok_iff]
      simpa using means
    · rwa [String.toList_ofList]
  · rintro ⟨before, after, rfl, offset, ⟨decoded, means⟩, fault⟩
    rw [decode_eq_ok_iff] at means
    exact ⟨before.toList, after.toList, decoded.toList, by simp, means, fault, by rw [width_toList, offset]⟩

/-- A text is refused if and only if it has a first fault, with that fault and its place, and can be decoded
    otherwise. The number of an escape never gets too large for its 32 bits. -/
theorem decode_stops_at_first_fault (names : NameTable) :
    (∀ (written : String) (error : Error), decode names written = .error error ↔ FirstFault names written error) ∧
    (∀ written : String, (∃ decoded, decode names written = .ok decoded) ↔ ∀ error, ¬ FirstFault names written error) ∧
    ∀ (chars text : List Char) (letter : Char) (expected missing value digit : Nat),
      Reads names chars text (.hex letter expected missing value) → digit < 16 →
      pushDigit? value digit = some (value * 16 + digit) := by
  refine ⟨fun written error => error_iff_firstFault, fun written => ?_, ?_⟩
  · cases read : decode names written with
    | error error =>
      refine ⟨?_, fun none => absurd (error_iff_firstFault.mp read) (none error)⟩
      rintro ⟨decoded, impossible⟩
      cases impossible
    | ok decoded =>
      refine ⟨fun _ error fault => ?_, fun _ => ⟨decoded, rfl⟩⟩
      rw [error_iff_firstFault.mpr fault] at read
      cases read
  · intro chars text letter expected missing value digit reads small
    exact reads.room.pushDigit? small

theorem decode_stops_at_first_fault_of_greatest :
    let names : NameTable := fun _ => none
    decode names "é\\101\\Uffffffff" = .error ⟨.invalidCodePoint 0xFFFFFFFF, 6⟩ ∧
      FirstFault names "é\\101\\Uffffffff" ⟨.invalidCodePoint 0xFFFFFFFF, 6⟩ ∧
      (∃ decoded, decode names "é\\101\\q" = .ok decoded) ∧ (∀ error, ¬ FirstFault names "é\\101\\q" error) ∧
      Reads names ['\\', 'U', 'f', 'f', 'f', 'f', 'f', 'f', 'f'] [] (.hex 'U' 8 0 0xFFFFFFF) ∧
      pushDigit? 0xFFFFFFF 15 = some 0xFFFFFFFF := by
  intro names
  have refused : decode names "é\\101\\Uffffffff" = .error ⟨.invalidCodePoint 0xFFFFFFFF, 6⟩ := by decide
  have decoded : ∃ decoded, decode names "é\\101\\q" = .ok decoded := ⟨"éA\\q", by decide⟩
  have opened : Reads names ['\\', 'U'] [] (.hex 'U' 8 7 0) :=
    (Reads.start.next step_plain_open).next (show step names .backslash 'U' = .ok ([], .hex 'U' 8 7 0) from rfl)
  have last : IsHexDigit 15 'f' := ⟨by decide, .inl rfl⟩
  have more {chars : List Char} {missing value : Nat} (reads : Reads names chars [] (.hex 'U' 8 (missing + 1) value)) :
      Reads names (chars ++ ['f']) [] (.hex 'U' 8 missing (value * 16 + 15)) :=
    reads.next (step_digit last reads.room)
  have reads := more (more (more (more (more (more (more opened))))))
  obtain ⟨errors, decodes, pushes⟩ := decode_stops_at_first_fault names
  exact ⟨refused, (errors _ _).mp refused, decoded, (decodes _).mp decoded, reads,
    pushes _ _ _ _ _ _ _ reads (by decide)⟩

end TagMenu.Escape
