import Mathlib
import TagMenu.Proofs.Cache.Scratch
import TagMenu.Proofs.Line.Grammar
import TagMenu.Proofs.Text.Lossy

namespace TagMenu

variable {octets other line rest front back : List UInt8} {chars before after : List Char}

namespace Text

theorem lines_append (free : '\n' ∉ before) (after : List Char) :
    lines (before ++ '\n' :: after) = dropFinal '\r' before :: lines after := by
  rw [lines, pieces_append, pieces_free '\n' free, List.singleton_append, lines]
  cases later : pieces '\n' after with
  | nil => exact absurd later (pieces_ne_nil '\n' after)
  | cons first others => rfl

theorem lines_free (free : '\n' ∉ chars) (nonempty : chars ≠ []) : lines chars = [chars] := by
  rw [lines, pieces_free '\n' free, linesOfPieces, if_neg (by simpa using nonempty)]

end Text

namespace TagFile

open Text (readOctets_append)

def octetLines : List UInt8 → List (List UInt8)
  | [] => []
  | octet :: rest =>
    if octet = 10 then [octet] :: octetLines rest
    else
      match octetLines rest with
      | [] => [[octet]]
      | line :: others => (octet :: line) :: others

def withoutEnd (line : List Char) : List Char :=
  if line.getLast? = some '\n' then Line.withoutFinal '\r' line.dropLast else line

def lineText (line : List UInt8) : List Char := withoutEnd (Text.readOctets none line)

theorem octetLines_append (free : 10 ∉ line) (rest : List UInt8) :
    octetLines (line ++ 10 :: rest) = (line ++ [10]) :: octetLines rest := by
  induction line with
  | nil => simp [octetLines]
  | cons octet line ih =>
    simp only [List.mem_cons, not_or] at free
    rw [List.cons_append, octetLines, if_neg (Ne.symm free.1), ih free.2]
    rfl

theorem octetLines_free (free : 10 ∉ line) (nonempty : line ≠ []) : octetLines line = [line] := by
  induction line with
  | nil => cases nonempty rfl
  | cons octet line ih =>
    simp only [List.mem_cons, not_or] at free
    rw [octetLines, if_neg (Ne.symm free.1)]
    cases line with
    | nil => rfl
    | cons next line => rw [ih free.2 (List.cons_ne_nil _ _)]

/-- Octets are none, or a line that is not ended, or a line that is ended and octets behind it. -/
theorem line_induction {motive : List UInt8 → Prop} (nothing : motive [])
    (last : ∀ line, 10 ∉ line → line ≠ [] → motive line)
    (ended : ∀ line rest, 10 ∉ line → motive rest → motive (line ++ 10 :: rest)) (octets : List UInt8) :
    motive octets := by
  by_cases feed : 10 ∈ octets
  · obtain ⟨line, rest, cut, free⟩ := List.eq_append_cons_of_mem feed
    have shorter : rest.length < octets.length := by
      rw [cut, List.length_append, List.length_cons]
      omega
    exact cut ▸ ended line rest free (line_induction nothing last ended rest)
  · by_cases nonempty : octets = []
    · exact nonempty ▸ nothing
    · exact last octets feed nonempty
termination_by octets.length

def Ended (octets : List UInt8) : Prop := octets = [] ∨ octets.getLast? = some 10

theorem Ended.of_line (ended : Ended (line ++ 10 :: rest)) : Ended rest := by
  by_cases none : rest = []
  · exact .inl none
  · rcases ended with empty | last
    · simp at empty
    · rw [List.append_cons, List.getLast?_append_of_ne_nil _ none] at last
      exact .inr last

theorem not_ended (free : 10 ∉ line) (nonempty : line ≠ []) : ¬ Ended line := by
  rintro (rfl | last)
  · exact nonempty rfl
  · exact free (List.mem_of_getLast? last)

theorem octetLines_ended (ended : Ended front) (back : List UInt8) :
    octetLines (front ++ back) = octetLines front ++ octetLines back := by
  induction front using line_induction with
  | nothing => rfl
  | last line free nonempty => exact absurd ended (not_ended free nonempty)
  | ended line rest free ih =>
    rw [List.append_assoc, List.cons_append, octetLines_append free, octetLines_append free, ih ended.of_line]
    rfl

theorem length_octetLines (ended : Ended octets) : (octetLines octets).length = octets.count 10 := by
  induction octets using line_induction with
  | nothing => rfl
  | last line free nonempty => exact absurd ended (not_ended free nonempty)
  | ended line rest free ih =>
    rw [octetLines_append free, List.length_cons, ih ended.of_line, List.count_append,
      List.count_eq_zero_of_not_mem free, List.count_cons_self, Nat.zero_add]

theorem withoutEnd_free (free : '\n' ∉ chars) : withoutEnd chars = chars :=
  if_neg fun last => free (List.mem_of_getLast? last)

theorem withoutEnd_ended (chars : List Char) : withoutEnd (chars ++ ['\n']) = Text.dropFinal '\r' chars := by
  rw [withoutEnd, if_pos List.getLast?_concat, List.dropLast_concat, Text.dropFinal_eq]
  rfl

theorem decode_ne_nil (nonempty : octets ≠ []) : Text.readOctets none octets ≠ [] := by
  intro none
  have replaced := Text.replaced_iff.mpr none
  cases replaced
  exact nonempty rfl

theorem lines_decode (octets : List UInt8) :
    Text.lines (Text.readOctets none octets) = (octetLines octets).map lineText := by
  induction octets using line_induction with
  | nothing => rfl
  | last line free nonempty =>
    rw [Text.lines_free (Text.not_feed free) (decode_ne_nil nonempty), octetLines_free free nonempty,
      List.map_singleton, lineText, withoutEnd_free (Text.not_feed free)]
  | ended line rest free ih =>
    have cut : Text.readOctets none (line ++ 10 :: rest) =
        Text.readOctets none line ++ '\n' :: Text.readOctets none rest := by
      rw [readOctets_append (.inr (.inr rfl)), ← List.singleton_append, readOctets_append (.inr (.inl rfl)),
        Text.readOctets_feed, List.singleton_append]
    rw [cut, Text.lines_append (Text.not_feed free), ih, octetLines_append free, List.map_cons, lineText,
      readOctets_append (.inr (.inr rfl)), Text.readOctets_feed, withoutEnd_ended]

theorem not_feed_lineText (known : line ∈ octetLines octets) : '\n' ∉ lineText line := by
  induction octets using line_induction with
  | nothing => cases known
  | last whole free nonempty =>
    rw [octetLines_free free nonempty, List.mem_singleton] at known
    rw [known, lineText, withoutEnd_free (Text.not_feed free)]
    exact Text.not_feed free
  | ended first rest free ih =>
    rw [octetLines_append free, List.mem_cons] at known
    rcases known with rfl | later
    · rw [lineText, readOctets_append (.inr (.inr rfl)), Text.readOctets_feed, withoutEnd_ended, Text.dropFinal_eq]
      split
      · exact fun feed => Text.not_feed free (List.mem_of_mem_dropLast feed)
      · exact Text.not_feed free
    · exact ih later

variable {names : Unicode.NameTable} {path : Path} {number : Nat} {lines : List (List Char)} {error : Error}
  {candidates : List Candidate}

def Error.later (passed : Nat) : Error → Error
  | .unreadable path failure => .unreadable path failure
  | .malformed path number error => .malformed path (number + passed) error

theorem readLines_append (before after : List (List Char)) :
    readLines names path number (before ++ after) = (do
      let candidates ← readLines names path number before
      let others ← readLines names path (number + before.length) after
      return candidates ++ others) := by
  induction before generalizing number with
  | nil =>
    show _ = (readLines names path (number + 0) after >>= fun others => pure ([] ++ others))
    simp
  | cons line rest ih =>
    rw [List.cons_append, readLines, readLines, List.length_cons, Nat.add_comm rest.length, ← Nat.add_assoc]
    cases Line.read names (String.ofList line) with
    | error fault => rfl
    | ok result =>
      cases result with
      | none => exact ih
      | some candidate =>
        simp only [ih]
        cases readLines names path (number + 1) rest with
        | error fault => rfl
        | ok candidates => cases readLines names path (number + 1 + rest.length) after <;> rfl

theorem readLines_later (passed : Nat) (lines : List (List Char)) :
    readLines names path (number + passed) lines =
      (readLines names path number lines).mapError (Error.later passed) := by
  induction lines generalizing number with
  | nil => rfl
  | cons line rest ih =>
    rw [readLines, readLines]
    cases Line.read names (String.ofList line) with
    | error fault => rfl
    | ok result =>
      have next : readLines names path (number + passed + 1) rest =
          (readLines names path (number + 1) rest).mapError (Error.later passed) := by
        rw [Nat.add_right_comm]
        exact ih
      cases result with
      | none => exact next
      | some candidate =>
        simp only [next]
        cases readLines names path (number + 1) rest <;> rfl

/-- What a line is read as. -/
def ReadAs (names : Unicode.NameTable) (line : List Char) (result : Option Candidate) : Prop :=
  Line.read names (String.ofList line) = .ok result

theorem readLines_of_readAs {results : List (Option Candidate)} (read : List.Forall₂ (ReadAs names) lines results) :
    readLines names path number lines = .ok results.reduceOption := by
  induction read generalizing number with
  | nil => rfl
  | @cons line result lines results head tail ih =>
    rw [readLines, head]
    cases result with
    | none => exact ih
    | some candidate =>
      simp only [ih]
      rfl

theorem readLines_of_fault {before after : List (List Char)} {results : List (Option Candidate)} {line : List Char}
    {fault : Line.Error} (read : List.Forall₂ (ReadAs names) before results)
    (faulty : Line.read names (String.ofList line) = .error fault) :
    readLines names path number (before ++ line :: after) =
      .error (.malformed path (number + before.length) fault) := by
  rw [readLines_append, readLines_of_readAs read, readLines, faulty]
  rfl

theorem exists_results : (∃ results, List.Forall₂ (ReadAs names) lines results) ↔
    ∀ line ∈ lines, ∃ result, ReadAs names line result := by
  induction lines with
  | nil => exact ⟨fun _ => by simp, fun _ => ⟨[], .nil⟩⟩
  | cons line rest ih =>
    rw [List.forall_mem_cons, ← ih]
    constructor
    · rintro ⟨_, _ | ⟨head, tail⟩⟩
      exact ⟨⟨_, head⟩, _, tail⟩
    · rintro ⟨⟨result, head⟩, results, tail⟩
      exact ⟨result :: results, .cons head tail⟩

theorem read_or_fault (names : Unicode.NameTable) (lines : List (List Char)) :
    (∃ results, List.Forall₂ (ReadAs names) lines results) ∨
    ∃ before results line after fault, lines = before ++ line :: after ∧
      List.Forall₂ (ReadAs names) before results ∧ Line.read names (String.ofList line) = .error fault := by
  induction lines with
  | nil => exact .inl ⟨[], .nil⟩
  | cons line rest ih =>
    cases read : Line.read names (String.ofList line) with
    | error fault => exact .inr ⟨[], [], line, rest, fault, rfl, .nil, read⟩
    | ok result =>
      rcases ih with ⟨results, all⟩ | ⟨before, results, other, after, fault, rfl, all, faulty⟩
      · exact .inl ⟨result :: results, .cons read all⟩
      · exact .inr ⟨line :: before, result :: results, other, after, fault, rfl, .cons read all, faulty⟩

theorem readLines_eq_ok_iff : readLines names path number lines = .ok candidates ↔
    ∃ results, List.Forall₂ (ReadAs names) lines results ∧ candidates = results.reduceOption := by
  constructor
  · intro read
    rcases read_or_fault names lines with ⟨results, all⟩ | ⟨before, results, line, after, fault, rfl, all, faulty⟩
    · rw [readLines_of_readAs all] at read
      exact ⟨results, all, (Except.ok.inj read).symm⟩
    · rw [readLines_of_fault all faulty] at read
      cases read
  · rintro ⟨results, all, rfl⟩
    exact readLines_of_readAs all

theorem readLines_eq_error_iff : readLines names path number lines = .error error ↔
    ∃ before line after fault, lines = before ++ line :: after ∧
      (∀ line ∈ before, ∃ result, ReadAs names line result) ∧ Line.read names (String.ofList line) = .error fault ∧
      error = .malformed path (number + before.length) fault := by
  constructor
  · intro read
    rcases read_or_fault names lines with ⟨results, all⟩ | ⟨before, results, line, after, fault, rfl, all, faulty⟩
    · rw [readLines_of_readAs all] at read
      cases read
    · rw [readLines_of_fault all faulty] at read
      exact ⟨before, line, after, fault, rfl, exists_results.mp ⟨results, all⟩, faulty, (Except.error.inj read).symm⟩
  · rintro ⟨before, line, after, fault, rfl, all, faulty, rfl⟩
    obtain ⟨results, read⟩ := exists_results.mpr all
    exact readLines_of_fault read faulty

theorem toList_loop (bytes : ByteArray) (index : Nat) (read : List UInt8) :
    ByteArray.toList.loop bytes index read = read.reverse ++ bytes.data.toList.drop index := by
  fun_induction ByteArray.toList.loop bytes index read with
  | case1 index read more ih =>
    have inside : index < bytes.data.toList.length := by simpa using more
    rw [ih, List.drop_eq_getElem_cons inside]
    simp [ByteArray.get!, more]
  | case2 index read done =>
    rw [List.drop_eq_nil_of_le (by simpa using Nat.le_of_not_lt done), List.append_nil]

theorem toList_bytes (bytes : ByteArray) : bytes.toList = bytes.data.toList := by
  rw [ByteArray.toList, toList_loop, List.reverse_nil, List.nil_append, List.drop_zero]

theorem toList_append (front back : ByteArray) : (front ++ back).toList = front.toList ++ back.toList := by
  simp only [toList_bytes, ByteArray.data_append, Array.toList_append]

theorem readOctets_eq (content : ByteArray) : readOctets names path content =
    readLines names path 1 ((octetLines content.toList).map lineText) := by
  rw [readOctets, readText, Text.readLossy, String.toList_ofList, lines_decode]

theorem line_of_fault {fault : Line.Error} (free : '\n' ∉ chars)
    (faulty : Line.read names (String.ofList chars) = .error fault) :
    fault.line = String.ofList (Line.withoutFinal '\r' chars) := by
  have grammar := Line.read_eq_iff.mp faulty
  have whole : Line.withoutFinal '\n' chars = chars := if_neg fun last => free (List.mem_of_getLast? last)
  rw [String.toList_ofList, Line.unterminated, whole] at grammar
  cases grammar
  rfl

/-- A file is read line by line: one with another behind it is read as the one and then the other, it can be read if all
    its lines can, and then has their candidates, and otherwise its first line that cannot be read is at fault. Octets
    that are no text are replaced as is recommended. -/
theorem readOctets_by_lines {σ : Type} (host : Host (StateM σ)) (names : Unicode.NameTable) (path : Path) :
    (∀ world content, host.content world path = .ok content →
      ((host.loadTags names path).run world).1 = readOctets names path content) ∧
    (∀ front back : ByteArray, Ended front.toList →
      readOctets names path (front ++ back) = (do
        let candidates ← readOctets names path front
        let others ← (readOctets names path back).mapError (Error.later (front.toList.count 10))
        return candidates ++ others)) ∧
    (∀ content, (∃ candidates, readOctets names path content = .ok candidates) ↔
      ∀ line ∈ octetLines content.toList, ∃ result, ReadAs names (lineText line) result) ∧
    (∀ content candidates, readOctets names path content = .ok candidates ↔
      ∃ results, List.Forall₂ (fun line => ReadAs names (lineText line)) (octetLines content.toList) results ∧
        candidates = results.reduceOption) ∧
    (∀ content error, readOctets names path content = .error error ↔
      ∃ before line after fault, octetLines content.toList = before ++ line :: after ∧
        (∀ line ∈ before, ∃ result, ReadAs names (lineText line) result) ∧
        Line.read names (String.ofList (lineText line)) = .error fault ∧
        error = .malformed path (before.length + 1) fault ∧
        fault.line = String.ofList (Line.withoutFinal '\r' (lineText line))) ∧
    ∀ content chars, Text.Replaced content.toList chars ↔ (Text.readLossy content).toList = chars := by
  refine ⟨?_, ?_, ?_, ?_, ?_, ?_⟩
  · intro world content reading
    rw [Cache.loadTags_run, Host.tags, reading]
  · intro front back ended
    have next : 1 + ((octetLines front.toList).map lineText).length = 1 + front.toList.count 10 := by
      rw [List.length_map, length_octetLines ended]
    rw [readOctets_eq, readOctets_eq, readOctets_eq, toList_append, octetLines_ended ended, List.map_append,
      readLines_append, next, readLines_later]
  · intro content
    have texts : (∀ text ∈ (octetLines content.toList).map lineText, ∃ result, ReadAs names text result) ↔ _ :=
      List.forall_mem_map
    rw [← texts, ← exists_results]
    simp only [readOctets_eq, readLines_eq_ok_iff]
    constructor
    · rintro ⟨_, results, read, -⟩
      exact ⟨results, read⟩
    · rintro ⟨results, read⟩
      exact ⟨_, results, read, rfl⟩
  · intro content candidates
    simp only [readOctets_eq, readLines_eq_ok_iff, List.forall₂_map_left_iff]
  · intro content error
    rw [readOctets_eq, readLines_eq_error_iff]
    constructor
    · rintro ⟨texts, text, others, fault, cut, all, faulty, rfl⟩
      obtain ⟨before, rest, same, rfl, tail⟩ := List.map_eq_append_iff.mp cut
      obtain ⟨line, after, rfl, rfl, rfl⟩ := List.map_eq_cons_iff.mp tail
      have known : line ∈ octetLines content.toList := by simp [same]
      refine ⟨before, line, after, fault, same, fun line member => all _ (List.mem_map_of_mem member), faulty, ?_, ?_⟩
      · rw [List.length_map, Nat.add_comm]
      · exact line_of_fault (not_feed_lineText known) faulty
    · rintro ⟨before, line, after, fault, same, all, faulty, rfl, -⟩
      refine ⟨before.map lineText, lineText line, after.map lineText, fault, ?_, List.forall_mem_map.mpr all, faulty,
        ?_⟩
      · rw [same, List.map_append, List.map_cons]
      · rw [List.length_map, Nat.add_comm]
  · intro content chars
    rw [Text.readLossy, String.toList_ofList, Text.replaced_iff]

/-- A character stops short before a line feed, and a file with a faulty second line follows. -/
theorem readOctets_by_lines_truncated :
    let front : ByteArray := ⟨#[97, 9, 98, 9, 99, 0xE2, 0x82, 10]⟩
    let back : ByteArray := ⟨#[33, 13, 10, 120, 13]⟩
    Ended front.toList ∧ readOctets (fun _ => none) ⟨"tags"⟩ front = .ok [.ofParts "a" "" "" "" ""] ∧
      readOctets (fun _ => none) ⟨"tags"⟩ (front ++ back) = .error (.malformed ⟨"tags"⟩ 3 ⟨.tooFewFields 1, "x"⟩) := by
  intro front back
  have ended : Ended front.toList := .inr (by rw [toList_bytes]; rfl)
  have first : readOctets (fun _ => none) ⟨"tags"⟩ front = .ok [.ofParts "a" "" "" "" ""] := by
    rw [readOctets_eq, toList_bytes]
    decide
  have second : readOctets (fun _ => none) ⟨"tags"⟩ back = .error (.malformed ⟨"tags"⟩ 2 ⟨.tooFewFields 1, "x"⟩) := by
    rw [readOctets_eq, toList_bytes]
    decide
  refine ⟨ended, first, ?_⟩
  rw [(readOctets_by_lines Machine.host (fun _ => none) ⟨"tags"⟩).2.1 front back ended, first, second, toList_bytes]
  rfl

end TagFile

end TagMenu
