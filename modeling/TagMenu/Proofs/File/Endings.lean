import Mathlib
import TagMenu.Proofs.File.Lines

namespace TagMenu

open Unicode (NameTable)

variable {names : NameTable} {path : Path} {number : Nat} {line ending separator text : List Char}
  {lines : List (List Char)} {c : Char}

namespace Text

/-- A line without its end. Carriage returns may be in it, but not as its last character. -/
structure Unended (line : List Char) : Prop where
  free : '\n' ∉ line
  last : line.getLast? ≠ some '\r'

def separators : List (List Char) := [['\n'], ['\r', '\n']]

def endings : List (List Char) := [[], ['\r'], ['\n'], ['\r', '\n']]

/-- A text that is made of lines. -/
inductive MadeOf : List (List Char) → List Char → Prop
  | nothing : MadeOf [] []
  | last {line ending : List Char} (known : ending ∈ endings) : MadeOf [line] (line ++ ending)
  | more {line separator next text : List Char} {lines : List (List Char)} (known : separator ∈ separators)
      (rest : MadeOf (next :: lines) text) : MadeOf (line :: next :: lines) (line ++ separator ++ text)

theorem dropFinal_concat (c : Char) (line : List Char) : dropFinal c (line ++ [c]) = line := by
  rw [dropFinal_eq, if_pos List.getLast?_concat, List.dropLast_concat]

theorem dropFinal_other (other : line.getLast? ≠ some c) : dropFinal c line = line := by
  rw [dropFinal_eq, if_neg other]

theorem Unended.dropFeed (unended : Unended line) : dropFinal '\n' line = line :=
  dropFinal_other fun feed => unended.free (List.mem_of_getLast? feed)

theorem Unended.lines_separated (unended : Unended line) (known : separator ∈ separators) (text : List Char) :
    Text.lines (line ++ separator ++ text) = line :: Text.lines text := by
  simp only [separators, List.mem_cons, List.not_mem_nil, or_false] at known
  rcases known with rfl | rfl
  · rw [List.append_assoc, List.singleton_append, lines_append unended.free, dropFinal_other unended.last]
  · have free : '\n' ∉ line ++ ['\r'] := by simpa using unended.free
    rw [List.append_cons, List.append_assoc, List.singleton_append, lines_append free, dropFinal_concat]

theorem Unended.dropTerminator (unended : Unended line) (known : ending ∈ endings) :
    Text.dropTerminator (line ++ ending) = line := by
  simp only [endings, List.mem_cons, List.not_mem_nil, or_false] at known
  rw [Text.dropTerminator]
  rcases known with rfl | rfl | rfl | rfl
  · rw [List.append_nil, unended.dropFeed, dropFinal_other unended.last]
  · have other : (line ++ ['\r']).getLast? ≠ some '\n' := by simp
    rw [dropFinal_other other, dropFinal_concat]
  · rw [dropFinal_concat, dropFinal_other unended.last]
  · rw [List.append_cons, dropFinal_concat, dropFinal_concat]

end Text

open Text (Unended MadeOf endings separators)

theorem Line.read_congr {line other : String}
    (same : Text.dropTerminator line.toList = Text.dropTerminator other.toList) :
    Line.read names line = Line.read names other := by
  rw [Line.read, Line.read, same]

theorem Line.read_ended (unended : Unended line) (known : ending ∈ endings) :
    Line.read names (String.ofList (line ++ ending)) = Line.read names (String.ofList line) := by
  apply Line.read_congr
  have bare : Text.dropTerminator (line ++ []) = line := unended.dropTerminator (by decide)
  rw [List.append_nil] at bare
  rw [String.toList_ofList, String.toList_ofList, unended.dropTerminator known, bare]

namespace TagFile

theorem readLines_empty : readLines names path number [[]] = readLines names path number [] := rfl

theorem readLines_of_read {other : List Char}
    (same : Line.read names (String.ofList line) = Line.read names (String.ofList other)) :
    readLines names path number [line] = readLines names path number [other] := by
  simp only [readLines, same]

theorem readLines_last (unended : Unended line) (known : ending ∈ endings) :
    readLines names path number (Text.lines (line ++ ending)) = readLines names path number [line] := by
  have read : Line.read names (String.ofList (line ++ ending)) = Line.read names (String.ofList line) :=
    Line.read_ended unended known
  by_cases separated : ending ∈ separators
  · have cut := unended.lines_separated separated []
    rw [List.append_nil] at cut
    rw [cut]
    rfl
  · by_cases empty : line ++ ending = []
    · -- The text has no such line at all. It would have been skipped.
      obtain ⟨rfl, rfl⟩ := List.append_eq_nil_iff.mp empty
      exact readLines_empty.symm
    · have frees : ∀ ending ∈ endings, ending ∉ separators → '\n' ∉ ending := by decide
      have uncut : '\n' ∉ line ++ ending := by
        rw [List.mem_append, not_or]
        exact ⟨unended.free, frees ending known separated⟩
      rw [Text.lines_free uncut empty]
      exact readLines_of_read read

theorem readLines_madeOf (made : MadeOf lines text) (unended : ∀ line ∈ lines, Unended line) :
    readLines names path number (Text.lines text) = readLines names path number lines := by
  induction made generalizing number with
  | nothing => rfl
  | last known => exact readLines_last (unended _ List.mem_cons_self) known
  | more known rest ih =>
    rw [List.forall_mem_cons] at unended
    rw [unended.1.lines_separated known, readLines, readLines]
    simp only [ih unended.2]

/-- A text is read as its lines are, in whichever way it is made of them, and a line is read alike with each of its
    ends. -/
theorem endings_interchangeable (names : NameTable) (path : Path) :
    (∀ lines text other, (∀ line ∈ lines, Unended line) → MadeOf lines text → MadeOf lines other →
      readText names path (String.ofList text) = readText names path (String.ofList other)) ∧
    (∀ lines text, (∀ line ∈ lines, Unended line) → MadeOf lines text →
      readText names path (String.ofList text) = readLines names path 1 lines) ∧
    ∀ line, Unended line → ∀ ending ∈ endings,
      Line.read names (String.ofList (line ++ ending)) = Line.read names (String.ofList line) := by
  have by_lines (lines text) (unended : ∀ line ∈ lines, Unended line) (made : MadeOf lines text) :
      readText names path (String.ofList text) = readLines names path 1 lines := by
    rw [readText, String.toList_ofList]
    exact readLines_madeOf made unended
  refine ⟨fun lines text other unended made remade => ?_, by_lines, fun line unended ending known => ?_⟩
  · rw [by_lines lines text unended made, by_lines lines other unended remade]
  · exact Line.read_ended unended known

/-- The error of the last line is the same whether or not a carriage return stands behind it. -/
theorem endings_interchangeable_of_fault :
    let names : NameTable := fun _ => none
    let last : List Char := "w\tf\t1\tdoc:é\r\\\t".toList
    let lines : List (List Char) := ["!x".toList, [], last]
    let text : List Char := "!x".toList ++ ['\r', '\n'] ++ ([] ++ ['\n'] ++ (last ++ []))
    let other : List Char := "!x".toList ++ ['\n'] ++ ([] ++ ['\r', '\n'] ++ (last ++ ['\r']))
    let fault : Line.Error := ⟨.invalidEscape ⟨.trailingBackslash, 3⟩, String.ofList last⟩
    (∀ line ∈ lines, Unended line) ∧ MadeOf lines text ∧ MadeOf lines other ∧
      readText names ⟨"tags"⟩ (String.ofList text) = .error (.malformed ⟨"tags"⟩ 3 fault) ∧
      readText names ⟨"tags"⟩ (String.ofList other) = .error (.malformed ⟨"tags"⟩ 3 fault) ∧
      Line.read names (String.ofList (last ++ ['\r', '\n'])) = .error fault := by
  intro names last lines text other fault
  have unended : ∀ line ∈ lines, Unended line := by
    intro line member
    have all : ∀ line ∈ lines, '\n' ∉ line ∧ line.getLast? ≠ some '\r' := by decide
    exact ⟨(all line member).1, (all line member).2⟩
  have made : MadeOf lines text := .more (by decide) (.more (by decide) (.last (by decide)))
  have remade : MadeOf lines other := .more (by decide) (.more (by decide) (.last (by decide)))
  obtain ⟨same, by_lines, ends⟩ := endings_interchangeable names ⟨"tags"⟩
  have refused : readLines names ⟨"tags"⟩ 1 lines = .error (.malformed ⟨"tags"⟩ 3 fault) := by decide
  have first := (by_lines lines text unended made).trans refused
  have line : Line.read names (String.ofList last) = .error fault := by decide
  refine ⟨unended, made, remade, first, ?_, ?_⟩
  · exact (same lines other text unended remade made).trans first
  · exact (ends last (unended last (by decide)) ['\r', '\n'] (by decide)).trans line

end TagFile

end TagMenu
