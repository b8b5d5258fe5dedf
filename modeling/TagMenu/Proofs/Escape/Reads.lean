import Mathlib
import TagMenu.Tag.Escape

namespace TagMenu.Escape

open Text (width)
open Unicode (NameTable)

variable {names : NameTable} {reading next last : Reading} {chars rest text more tail : List Char}
  {start other offset shift : Nat} {c : Char}

/-- `chars` are read from the start without a fault. They give `text`, and reading then stands at
    `reading`. -/
inductive Reads (names : NameTable) : List Char → List Char → Reading → Prop
  | start : Reads names [] [] .plain
  | next {chars text more : List Char} {reading next : Reading} {c : Char} (reads : Reads names chars text reading)
      (stepped : step names reading c = .ok (more, next)) : Reads names (chars ++ [c]) (text ++ more) next

def Error.later (error : Error) (octets : Nat) : Error := { error with offset := error.offset + octets }

theorem finish_plain : finish .plain = .ok [] := rfl

theorem step_plain_open : step names .plain '\\' = .ok ([], .backslash) := rfl

theorem step_plain_itself (itself : c ≠ '\\') : step names .plain c = .ok ([c], .plain) := by
  rw [step, readPlain, if_neg itself]

theorem decodeFrom_nil : decodeFrom names reading start offset [] = (finish reading).mapError (⟨·, start⟩) := rfl

theorem decodeFrom_of_step (stepped : step names reading c = .ok (text, next)) :
    decodeFrom names reading start offset (c :: rest) =
      (decodeFrom names next (if next = .backslash then offset else start) (offset + c.utf8Size) rest).map
        (text ++ ·) := by
  rw [decodeFrom, stepped]
  rfl

theorem decodeFrom_of_fault {fault : Fault} (stepped : step names reading c = .error fault) :
    decodeFrom names reading start offset (c :: rest) = .error ⟨fault, start⟩ := by
  rw [decodeFrom, stepped]
  rfl

theorem ok_of_map {ε α β : Type} {result : Except ε α} {f : α → β} {b : β} (mapped : result.map f = .ok b) :
    ∃ a, result = .ok a ∧ f a = b := by
  cases result with
  | error fault => cases mapped
  | ok a => exact ⟨a, rfl, Except.ok.inj mapped⟩

theorem map_append (result : Except Error (List Char)) (text more : List Char) :
    (result.map (more ++ ·)).map (text ++ ·) = result.map ((text ++ more) ++ ·) := by
  cases result with
  | error error => rfl
  | ok tail => exact congrArg Except.ok (List.append_assoc text more tail).symm

theorem decodeFrom_plain (start other : Nat) :
    decodeFrom names .plain start offset chars = decodeFrom names .plain other offset chars := by
  induction chars generalizing offset with
  | nil => rfl
  | cons c rest ih =>
    by_cases opens : c = '\\'
    · subst opens
      rw [decodeFrom_of_step step_plain_open, decodeFrom_of_step step_plain_open]
      rfl
    · rw [decodeFrom_of_step (step_plain_itself opens), decodeFrom_of_step (step_plain_itself opens)]
      exact congrArg (Except.map ([c] ++ ·)) ih

theorem decodeFrom_later :
    decodeFrom names reading (start + shift) (offset + shift) chars =
      (decodeFrom names reading start offset chars).mapError (·.later shift) := by
  induction chars generalizing reading start offset with
  | nil =>
    rw [decodeFrom_nil, decodeFrom_nil]
    cases finish reading with
    | error fault => rfl
    | ok text => rfl
  | cons c rest ih =>
    cases stepped : step names reading c with
    | error fault =>
      rw [decodeFrom_of_fault stepped, decodeFrom_of_fault stepped]
      rfl
    | ok result =>
      obtain ⟨text, next⟩ := result
      have starts : (if next = .backslash then offset + shift else start + shift) =
          (if next = .backslash then offset else start) + shift := by
        split <;> rfl
      rw [decodeFrom_of_step stepped, decodeFrom_of_step stepped, starts, Nat.add_right_comm, ih]
      cases decodeFrom names next (if next = .backslash then offset else start) (offset + c.utf8Size) rest with
      | error error => rfl
      | ok tail => rfl

theorem width_eq (chars : List Char) : width chars = String.utf8Len chars := by
  induction chars with
  | nil => rfl
  | cons c rest ih => rw [width, String.utf8Len_cons, ih, Nat.add_comm]

theorem width_toList (text : String) : width text.toList = text.utf8ByteSize := by
  rw [width_eq, ← String.utf8ByteSize_ofList, String.ofList_toList]

theorem Reads.decodeFrom_append (reads : Reads names chars text reading) (start offset : Nat) :
    ∃ start', ∀ rest, decodeFrom names .plain start offset (chars ++ rest) =
      (decodeFrom names reading start' (offset + width chars) rest).map (text ++ ·) := by
  induction reads with
  | start =>
    refine ⟨start, fun rest => ?_⟩
    cases decoded : decodeFrom names .plain start offset rest <;> simp [width, decoded, Except.map]
  | @next chars text more reading next c reads stepped ih =>
    obtain ⟨start', goesOn⟩ := ih
    refine ⟨if next = .backslash then offset + width chars else start', fun rest => ?_⟩
    have longer : width (chars ++ [c]) = width chars + c.utf8Size := by
      simp only [width_eq, String.utf8Len_append, String.utf8Len_cons, String.utf8Len_nil, Nat.zero_add]
    rw [List.append_assoc, List.singleton_append, goesOn, decodeFrom_of_step stepped, map_append, longer,
      Nat.add_assoc]

theorem Reads.of_decodeFrom (reads : Reads names chars text reading) {decoded : List Char}
    (ends : decodeFrom names reading start offset rest = .ok decoded) :
    ∃ more last tail, Reads names (chars ++ rest) (text ++ more) last ∧ finish last = .ok tail ∧
      decoded = more ++ tail := by
  induction rest generalizing chars text reading start offset decoded with
  | nil =>
    rw [decodeFrom_nil] at ends
    cases finished : finish reading with
    | error fault =>
      rw [finished] at ends
      cases ends
    | ok tail =>
      rw [finished] at ends
      cases ends
      exact ⟨[], reading, decoded, by simpa using reads, finished, rfl⟩
  | cons c rest ih =>
    cases stepped : step names reading c with
    | error fault =>
      rw [decodeFrom_of_fault stepped] at ends
      cases ends
    | ok result =>
      obtain ⟨added, next⟩ := result
      rw [decodeFrom_of_step stepped] at ends
      cases goesOn : decodeFrom names next (if next = .backslash then offset else start) (offset + c.utf8Size) rest with
      | error error =>
        rw [goesOn] at ends
        cases ends
      | ok decodedRest =>
        rw [goesOn] at ends
        cases ends
        obtain ⟨more, last, tail, all, finished, rfl⟩ := ih (reads.next stepped) goesOn
        exact ⟨added ++ more, last, tail, by simpa using all, finished, by simp⟩

theorem Reads.append (reads : Reads names chars text .plain) (others : Reads names rest more last) :
    Reads names (chars ++ rest) (text ++ more) last := by
  induction others with
  | start => simpa using reads
  | next others stepped ih => simpa using ih.next stepped

theorem reads_plain (closed : '\\' ∉ chars) : Reads names chars chars .plain := by
  induction chars with
  | nil => exact .start
  | cons c rest ih =>
    simp only [List.mem_cons, not_or] at closed
    exact (Reads.start.next (step_plain_itself (Ne.symm closed.1))).append (ih closed.2)

theorem Reads.decodes_from (reads : Reads names chars text reading) (finished : finish reading = .ok tail) :
    decodeFrom names .plain start offset chars = .ok (text ++ tail) := by
  obtain ⟨start', goesOn⟩ := reads.decodeFrom_append start offset
  have ends := goesOn []
  rw [List.append_nil, decodeFrom_nil, finished] at ends
  exact ends

theorem decode_eq_decodeAll (names : NameTable) (text : String) : decode names text = decodeAll names text := by
  unfold decode
  split
  · rfl
  · rename_i closed
    have reads : Reads names text.toList text.toList .plain := reads_plain (by simpa using closed)
    rw [decodeAll, reads.decodes_from finish_plain, List.append_nil]
    exact congrArg Except.ok String.ofList_toList.symm

theorem Reads.decodes {written : String} (reads : Reads names written.toList text reading)
    (finished : finish reading = .ok tail) :
    decode names written = .ok (String.ofList (text ++ tail)) := by
  rw [decode_eq_decodeAll, decodeAll, reads.decodes_from finished]
  rfl

theorem reads_of_decode {written decoded : String} (ends : decode names written = .ok decoded) :
    ∃ text last tail, Reads names written.toList text last ∧ finish last = .ok tail ∧
      decoded.toList = text ++ tail := by
  rw [decode_eq_decodeAll, decodeAll] at ends
  cases all : decodeFrom names .plain 0 0 written.toList with
  | error error =>
    rw [all] at ends
    cases ends
  | ok chars =>
    rw [all] at ends
    cases ends
    obtain ⟨text, last, tail, reads, finished, same⟩ := Reads.start.of_decodeFrom all
    exact ⟨text, last, tail, reads, finished, by simpa using same⟩

end TagMenu.Escape
