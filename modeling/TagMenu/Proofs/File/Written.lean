import Mathlib
import TagMenu.Tag.File
import TagMenu.Proofs.Escape.Spelling
import TagMenu.Proofs.Line.Grammar

namespace TagMenu

open Escape (IsHexDigit places)
open Text (isBlank)
open Unicode (NameTable)

structure Tag where
  word : String
  file : String
  address : String
  kind : String
  owner : String
  signature : String
  doc : String

namespace Tag

variable {names : NameTable} {tag : Tag} {line doc chars : List Char} {c : Char}
  {fields extras lines : List (List Char)} {tags : List Tag}

def candidate (tag : Tag) : Candidate := .ofParts tag.word tag.kind tag.owner tag.signature tag.doc

def Trimmed (chars : List Char) : Prop :=
  (∀ c ∈ chars.head?, isBlank c = false) ∧ ∀ c ∈ chars.getLast?, isBlank c = false

/-- A tag that can be written on a line. There is no condition on its documentation. -/
structure Writable (tag : Tag) : Prop where
  named : tag.word ≠ ""
  noHeader : tag.word.toList.head? ≠ some '!'
  separate : ∀ part ∈ [tag.word, tag.file, tag.address, tag.kind, tag.owner, tag.signature],
    '\t' ∉ part.toList ∧ '\n' ∉ part.toList
  trimmed : ∀ part ∈ [tag.kind, tag.owner, tag.signature], Trimmed part.toList

/-- Documentation is written with every backslash doubled and every blank as a code point. -/
inductive DocWritten : List Char → List Char → Prop
  | nothing : DocWritten [] []
  | backslash {doc written : List Char} (rest : DocWritten doc written) :
      DocWritten ('\\' :: doc) ('\\' :: '\\' :: written)
  | blank {c : Char} {digits doc written : List Char} (blank : isBlank c = true)
      (hex : List.Forall₂ IsHexDigit (places 16 4 c.toNat) digits) (rest : DocWritten doc written) :
      DocWritten (c :: doc) ('\\' :: 'u' :: digits ++ written)
  | itself {c : Char} {doc written : List Char} (ordinary : c ≠ '\\') (visible : isBlank c = false)
      (rest : DocWritten doc written) : DocWritten (c :: doc) (c :: written)

def field (key : String) (value : List Char) : List Char := key.toList ++ ':' :: value

structure Extra (extra : List Char) : Prop where
  colon : ':' ∈ extra
  unread : ∀ key ∈ Line.keys, Line.keyOf extra ≠ key.toList
  separate : '\t' ∉ extra ∧ '\n' ∉ extra

def pairs (tag : Tag) (doc : List Char) : List (String × List Char) :=
  [("kind", tag.kind.toList), ("module", tag.owner.toList), ("string", tag.signature.toList), ("doc", doc)]

structure Described (tag : Tag) (doc : List Char) (extras fields : List (List Char)) : Prop where
  written : DocWritten tag.doc.toList doc
  unread : ∀ extra ∈ extras, Extra extra
  mixed : fields.Perm ((tag.pairs doc).map (fun pair => field pair.1 pair.2) ++ extras)

/-- A line about a tag: three fields, then those that describe it, and a tab behind each. -/
inductive WrittenAs (tag : Tag) : List Char → Prop
  | line {doc : List Char} {extras fields : List (List Char)} (described : tag.Described doc extras fields) :
      WrittenAs tag
        ((tag.word.toList :: tag.file.toList :: tag.address.toList :: fields).flatMap (· ++ ['\t']))

theorem blank_fits (blank : isBlank c = true) : c.toNat < 16 ^ 4 := by
  simp only [isBlank, Bool.or_eq_true, Bool.and_eq_true, decide_eq_true_eq, beq_iff_eq] at blank
  omega

theorem DocWritten.encodes (written : DocWritten doc line) : Escape.Encodes doc line := by
  induction written with
  | nothing => exact .nothing
  | backslash rest ih => exact .character (.short (by decide)) ih
  | blank blank hex rest ih =>
    exact .character (.hex (show ('u', 4) ∈ Escape.hexForms by decide) (blank_fits blank) hex) ih
  | itself ordinary visible rest ih => exact .character (.itself ordinary) ih

theorem DocWritten.visible (written : DocWritten doc line) : ∀ c ∈ line, isBlank c = false := by
  induction written with
  | nothing => simp
  | backslash rest ih => exact List.forall_mem_cons.mpr ⟨rfl, List.forall_mem_cons.mpr ⟨rfl, ih⟩⟩
  | blank blank hex rest ih =>
    refine List.forall_mem_cons.mpr ⟨rfl, List.forall_mem_cons.mpr ⟨rfl, ?_⟩⟩
    exact List.forall_mem_append.mpr ⟨Escape.hexDigits_visible hex, ih⟩
  | itself ordinary visible rest ih => exact List.forall_mem_cons.mpr ⟨visible, ih⟩

theorem DocWritten.decode {text : String} (written : DocWritten text.toList line) :
    Escape.decode names (String.ofList line) = .ok text := by
  have reads : Escape.Reads names (String.ofList line).toList text.toList .plain := by
    rw [String.toList_ofList]
    exact Escape.reads_encoded written.encodes
  rw [reads.decodes Escape.finish_plain, List.append_nil, String.ofList_toList]

theorem exists_docWritten (doc : List Char) : ∃ written, DocWritten doc written := by
  induction doc with
  | nil => exact ⟨_, .nothing⟩
  | cons c rest ih =>
    obtain ⟨written, rest⟩ := ih
    by_cases backslash : c = '\\'
    · subst backslash
      exact ⟨_, .backslash rest⟩
    · cases blank : isBlank c with
      | true => exact ⟨_, .blank blank (Escape.hexDigits_places 4 c.toNat) rest⟩
      | false => exact ⟨_, .itself backslash blank rest⟩

theorem bare_of_trimmed (trimmed : Trimmed chars) : Line.bare chars = chars := by
  obtain ⟨first, last⟩ := trimmed
  have kept : chars.dropWhile isBlank = chars := by
    cases chars with
    | nil => rfl
    | cons c rest => exact List.dropWhile_cons_of_neg (by simp [first c rfl])
  rw [Line.bare, kept, List.rdropWhile_eq_self_iff]
  intro some
  simp [last _ (List.getLast?_eq_some_getLast some)]

theorem trimmed_of_visible (visible : ∀ c ∈ chars, isBlank c = false) : Trimmed chars :=
  ⟨fun c first => visible c (List.mem_of_mem_head? first), fun c last => visible c (List.mem_of_mem_getLast? last)⟩

theorem field_read (key : String) (read : key ∈ Line.keys) (value : List Char) :
    Line.keyOf (field key value) = key.toList ∧ Line.contentOf (field key value) = Line.bare value := by
  simp only [Line.keys, List.mem_cons, List.not_mem_nil, or_false] at read
  rcases read with rfl | rfl | rfl | rfl <;> exact ⟨rfl, rfl⟩

theorem pairs_keys (tag : Tag) (doc : List Char) : (tag.pairs doc).map (·.1) = Line.keys := rfl

theorem filter_pairs (tag : Tag) (doc : List Char) : ∀ pair ∈ tag.pairs doc,
    ((tag.pairs doc).map fun pair => field pair.1 pair.2).filter (Line.keyOf · = pair.1.toList) =
      [field pair.1 pair.2] := by
  have kind (value : List Char) := (field_read "kind" (by decide) value).1
  have owner (value : List Char) := (field_read "module" (by decide) value).1
  have signature (value : List Char) := (field_read "string" (by decide) value).1
  have doc (value : List Char) := (field_read "doc" (by decide) value).1
  simp [pairs, kind, owner, signature, doc]

namespace Described

variable (described : tag.Described doc extras fields)
include described

theorem trimmed (writable : tag.Writable) : ∀ pair ∈ tag.pairs doc, Trimmed pair.2 := by
  simp only [pairs, List.forall_mem_cons]
  exact ⟨writable.trimmed _ (by simp), writable.trimmed _ (by simp), writable.trimmed _ (by simp),
    trimmed_of_visible described.written.visible, by simp⟩

theorem lastFor (writable : tag.Writable) :
    ∀ pair ∈ tag.pairs doc, Line.lastFor pair.1 fields = String.ofList pair.2 := by
  intro pair member
  have read : pair.1 ∈ Line.keys := pairs_keys tag doc ▸ List.mem_map_of_mem member
  have none : extras.filter (Line.keyOf · = pair.1.toList) = [] := by
    refine List.filter_eq_nil_iff.mpr fun extra member => ?_
    simpa using (described.unread extra member).unread pair.1 read
  have found : fields.filter (Line.keyOf · = pair.1.toList) = [field pair.1 pair.2] := by
    have kept := described.mixed.filter (Line.keyOf · = pair.1.toList)
    rw [List.filter_append, filter_pairs tag doc pair member, none] at kept
    exact List.perm_singleton.mp kept
  rw [Line.lastFor, Line.lastOf, found, List.getLast?_singleton, Option.map_some, (field_read pair.1 read _).2,
    bare_of_trimmed (described.trimmed writable pair member), Option.getD_some]

theorem separate (writable : tag.Writable) :
    ∀ field ∈ fields, ':' ∈ field ∧ '\t' ∉ field ∧ '\n' ∉ field := by
  have visible := described.written.visible
  have tab : '\t' ∉ doc := fun member => nomatch visible _ member
  have feed : '\n' ∉ doc := fun member => nomatch visible _ member
  have separate := writable.separate
  simp only [List.forall_mem_cons] at separate
  obtain ⟨-, -, -, kind, owner, signature, -⟩ := separate
  have read : ∀ pair ∈ tag.pairs doc,
      ':' ∈ field pair.1 pair.2 ∧ '\t' ∉ field pair.1 pair.2 ∧ '\n' ∉ field pair.1 pair.2 := by
    simp only [pairs, List.forall_mem_cons, field]
    simp [tab, feed, kind, owner, signature]
  intro field member
  rcases List.mem_append.mp (described.mixed.mem_iff.mp member) with member | member
  · obtain ⟨pair, known, rfl⟩ := List.mem_map.mp member
    exact read pair known
  · exact ⟨(described.unread field member).colon, (described.unread field member).separate⟩

theorem pieces_separate (writable : tag.Writable) :
    ∀ piece ∈ tag.word.toList :: tag.file.toList :: tag.address.toList :: fields, '\t' ∉ piece ∧ '\n' ∉ piece := by
  have separate := writable.separate
  simp only [List.forall_mem_cons] at separate ⊢
  obtain ⟨word, file, address, -⟩ := separate
  exact ⟨word, file, address, fun field member => (described.separate writable field member).2⟩

theorem not_skipped (writable : tag.Writable) : ¬ Line.Skipped
    ((tag.word.toList :: tag.file.toList :: tag.address.toList :: fields).flatMap (· ++ ['\t'])) := by
  rintro (blank | header)
  · have kind : field "kind" tag.kind.toList ∈ fields :=
      described.mixed.mem_iff.mpr (List.mem_append_left _ (List.mem_cons_self ..))
    have letter : 'k' ∈ (tag.word.toList :: tag.file.toList :: tag.address.toList :: fields).flatMap (· ++ ['\t']) :=
      List.mem_flatMap.mpr ⟨field "kind" tag.kind.toList, by simp [kind], by simp [field]⟩
    cases blank 'k' letter
  · obtain ⟨c, rest, word⟩ := List.exists_cons_of_ne_nil (mt String.toList_eq_nil_iff.mp writable.named)
    rw [List.flatMap_cons, word] at header
    exact writable.noHeader (word ▸ header)

theorem meant (writable : tag.Writable) : Line.FieldsMean names
    (tag.word.toList :: tag.file.toList :: tag.address.toList :: (fields ++ [[]])) (.ok tag.candidate) := by
  have values := described.lastFor writable
  simp only [pairs, List.forall_mem_cons, String.ofList_toList] at values
  obtain ⟨kind, owner, signature, last, -⟩ := values
  have colons : ∀ field ∈ (fields ++ [[]]).dropLast, ':' ∈ field := by
    rw [List.dropLast_concat]
    exact fun field member => (described.separate writable field member).1
  have valid : Escape.decode names (Line.lastFor "doc" (fields ++ [[]]).dropLast) = .ok tag.doc := by
    rw [List.dropLast_concat, last]
    exact described.written.decode
  have same : tag.candidate = .ofParts (String.ofList tag.word.toList) (Line.lastFor "kind" (fields ++ [[]]).dropLast)
      (Line.lastFor "module" (fields ++ [[]]).dropLast) (Line.lastFor "string" (fields ++ [[]]).dropLast) tag.doc := by
    rw [List.dropLast_concat, kind, owner, signature, String.ofList_toList]
    rfl
  rw [same]
  exact .tag (mt String.toList_eq_nil_iff.mp writable.named) colons valid

end Described

theorem getLast?_ended (any : lines ≠ []) (c : Char) : (lines.flatMap (· ++ [c])).getLast? = some c := by
  obtain ⟨before, last, rfl⟩ := List.eq_nil_or_concat lines |>.resolve_left any
  simp

namespace WrittenAs

theorem getLast? (written : tag.WrittenAs line) : line.getLast? = some '\t' := by
  cases written
  exact getLast?_ended (by simp) '\t'

theorem not_feed (writable : tag.Writable) (written : tag.WrittenAs line) : '\n' ∉ line := by
  obtain ⟨described⟩ := written
  intro member
  obtain ⟨piece, known, inside⟩ := List.mem_flatMap.mp member
  rcases List.mem_append.mp inside with inside | inside
  · exact (described.pieces_separate writable piece known).2 inside
  · cases List.mem_singleton.mp inside

theorem read (writable : tag.Writable) (written : tag.WrittenAs line) :
    Line.read names (String.ofList line) = .ok (some tag.candidate) := by
  have whole : Line.unterminated line = line := by
    simp [Line.unterminated, Line.withoutFinal, written.getLast?]
  rw [Line.read_eq_iff, String.toList_ofList, whole]
  obtain ⟨described⟩ := written
  refine .tag (described.not_skipped writable) ?_
  rw [Text.flatMap_ended, List.splitOn_intercalate '\t' ?_ (by simp)]
  · exact described.meant writable
  · exact List.forall_mem_append.mpr
      ⟨fun piece member => (described.pieces_separate writable piece member).1, by simp⟩

end WrittenAs

theorem readLines_written (path : Path) (number : Nat) (written : List.Forall₂ WrittenAs tags lines)
    (writable : ∀ tag ∈ tags, tag.Writable) :
    TagFile.readLines names path number lines = .ok (tags.map candidate) := by
  induction written generalizing number with
  | nil => rfl
  | cons written rest ih =>
    rw [List.forall_mem_cons] at writable
    rw [TagFile.readLines, written.read writable.1, ih (number + 1) writable.2]
    rfl

theorem exists_writtenAs (tag : Tag) : ∃ line, tag.WrittenAs line := by
  obtain ⟨doc, written⟩ := exists_docWritten tag.doc.toList
  exact ⟨_, .line ⟨written, fun _ none => absurd none List.not_mem_nil, by rw [List.append_nil]⟩⟩

theorem whole_of_written (written : List.Forall₂ WrittenAs tags lines) (writable : ∀ tag ∈ tags, tag.Writable) :
    ∀ line ∈ lines, '\n' ∉ line ∧ line.getLast? ≠ some '\r' := by
  induction written with
  | nil => simp
  | cons written rest ih =>
    rw [List.forall_mem_cons] at writable ⊢
    exact ⟨⟨written.not_feed writable.1, by simp [written.getLast?]⟩, ih writable.2⟩

/-- Tags can be written on lines, and any lines on which they are written are read as their candidates. -/
theorem readText_written (names : NameTable) (path : Path) (tags : List Tag) (writable : ∀ tag ∈ tags, tag.Writable) :
    (∃ lines, List.Forall₂ WrittenAs tags lines) ∧
    ∀ lines, List.Forall₂ WrittenAs tags lines →
      TagFile.readText names path (String.ofList (lines.flatMap (· ++ ['\n']))) = .ok (tags.map candidate) := by
  constructor
  · choose line written using exists_writtenAs
    exact ⟨tags.map line, List.forall₂_map_right_iff.mpr (List.forall₂_same.mpr fun tag _ => written tag)⟩
  · intro lines written
    rw [TagFile.readText, String.toList_ofList, Text.lines_ended (whole_of_written written writable)]
    exact readLines_written path 1 written writable

/-- The fields are out of order, with another one between them, and the documentation has a backslash and
    ends with blanks. -/
theorem readText_written_mixed :
    let tag : Tag := ⟨"w", "f", "1", "m", "M", "s:t", "a\\b \n"⟩
    let line := "w\tf\t1\tdoc:a\\\\b\\u0020\\u000A\tline:2\tstring:s:t\tkind:m\tmodule:M\t"
    tag.Writable ∧ tag.WrittenAs line.toList ∧
      TagFile.readText (fun _ => none) ⟨"tags"⟩ (String.ofList (line.toList ++ ['\n'])) =
        .ok [tag.candidate] := by
  intro tag line
  have writable : tag.Writable := ⟨by decide, by decide, by decide, by simp [tag, Trimmed]; decide⟩
  have space : List.Forall₂ IsHexDigit (places 16 4 ' '.toNat) ['0', '0', '2', '0'] := Escape.hexDigits_places 4 _
  have feed : List.Forall₂ IsHexDigit (places 16 4 '\n'.toNat) ['0', '0', '0', 'A'] := by
    simp [places, IsHexDigit]
    decide
  have doc : DocWritten ['a', '\\', 'b', ' ', '\n'] "a\\\\b\\u0020\\u000A".toList :=
    .itself (by decide) rfl (.backslash (.itself (by decide) rfl (.blank rfl space (.blank rfl feed .nothing))))
  have text : tag.doc.toList = ['a', '\\', 'b', ' ', '\n'] := by decide
  have whole : line.toList = (["w", "f", "1", "doc:a\\\\b\\u0020\\u000A", "line:2", "string:s:t", "kind:m",
      "module:M"].map String.toList).flatMap (· ++ ['\t']) := by decide
  have extra : Extra "line:2".toList := ⟨by decide, by decide, by decide⟩
  have described : tag.Described "a\\\\b\\u0020\\u000A".toList ["line:2".toList]
      (["doc:a\\\\b\\u0020\\u000A", "line:2", "string:s:t", "kind:m", "module:M"].map String.toList) :=
    ⟨text ▸ doc, List.forall_mem_singleton.mpr extra, by decide⟩
  have written : tag.WrittenAs line.toList := whole ▸ .line described
  refine ⟨writable, written, ?_⟩
  simpa using (readText_written (fun _ => none) ⟨"tags"⟩ [tag] (by simpa using writable)).2 [line.toList]
    (.cons written .nil)

end Tag

end TagMenu
