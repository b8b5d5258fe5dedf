import Mathlib
import TagMenu.Proofs.File.Lines
import TagMenu.Proofs.File.Written

namespace TagMenu

open Tag (Trimmed)
open Unicode (NameTable)

variable {names : NameTable} {line chars key : List Char} {fields : List (List Char)} {candidate : Candidate} {c : Char}

/-- What this line of a tag file says of the menu and of the information beside it. -/
structure Candidate.Shows (names : NameTable) (line : List Char) (candidate : Candidate)
    (owner signature doc : String) : Prop where
  meant : Line.FieldsMean names (line.splitOn '\t') (.ok candidate)
  menu : candidate.menu = owner ++ "." ++ signature
  trimmed : ∀ part ∈ [owner, signature], Trimmed part.toList
  info : candidate.info = candidate.menu ++ "\n" ++ doc
  decoded : Escape.decode names (Line.lastFor "doc" ((line.splitOn '\t').drop 3).dropLast) = .ok doc

/-- A candidate as an editor can show it, on one line of a menu, with its word first. -/
structure Candidate.WellFormed (names : NameTable) (candidate : Candidate) : Prop where
  named : candidate.word ≠ ""
  noHeader : candidate.word.toList.head? ≠ some '!'
  dup : candidate.dup = 1
  separate : ∀ part ∈ [candidate.word, candidate.kind, candidate.menu], '\t' ∉ part.toList ∧ '\n' ∉ part.toList
  trimmed : Trimmed candidate.kind.toList
  shows : ∃ line owner signature doc, '\n' ∉ line ∧ candidate.Shows names line owner signature doc

namespace Line

theorem trimmed_bare (chars : List Char) : Trimmed (bare chars) := by
  have start := List.head?_dropWhile_not Text.isBlank chars
  constructor
  · intro c first
    obtain ⟨rest, whole⟩ := List.rdropWhile_prefix Text.isBlank (chars.dropWhile Text.isBlank)
    have first : (chars.dropWhile Text.isBlank).head? = some c := by
      rw [← whole, List.head?_append, ← bare, Option.mem_def.mp first]
      rfl
    simpa [first] using start
  · intro c last
    have some : bare chars ≠ [] := by
      rintro none
      simp [none] at last
    obtain rfl : (bare chars).getLast some = c := by simpa [List.getLast?_eq_some_getLast some] using last
    exact Bool.eq_false_iff.mpr (List.rdropWhile_last_not Text.isBlank (chars.dropWhile Text.isBlank) some)

theorem bare_subset (chars : List Char) : bare chars ⊆ chars :=
  List.Subset.trans (List.rdropWhile_prefix _ _).subset (List.dropWhile_sublist _).subset

theorem contentOf_subset (field : List Char) : contentOf field ⊆ field :=
  List.Subset.trans (bare_subset _) (List.Subset.trans (List.tail_subset _) (List.dropWhile_sublist _).subset)

theorem lastFor_cases (key : String) (fields : List (List Char)) :
    Trimmed (lastFor key fields).toList ∧
      ∀ c ∈ (lastFor key fields).toList, ∃ field ∈ fields, c ∈ field := by
  rw [lastFor, String.toList_ofList]
  cases found : lastOf key.toList fields with
  | none => exact ⟨⟨by simp, by simp⟩, by simp⟩
  | some value =>
    obtain ⟨field, last, rfl⟩ := Option.map_eq_some_iff.mp found
    have known : field ∈ fields := List.mem_of_mem_filter (List.mem_of_getLast? last)
    exact ⟨trimmed_bare _, fun c member => ⟨field, known, contentOf_subset field member⟩⟩

theorem withoutFinal_subset (c : Char) (chars : List Char) : withoutFinal c chars ⊆ chars := by
  unfold withoutFinal
  split
  · exact List.dropLast_subset chars
  · exact List.Subset.refl chars

theorem separate_of_field (free : '\n' ∉ line) {field : List Char} (known : field ∈ line.splitOn '\t') :
    '\t' ∉ field ∧ '\n' ∉ field := by
  rw [← Text.pieces_eq_splitOn] at known
  exact ⟨Text.not_mem_pieces _ _ _ known, fun feed => free (Text.subset_of_mem_pieces _ _ _ known feed)⟩

theorem separate_lastFor (key : String) (separate : ∀ field ∈ fields, '\t' ∉ field ∧ '\n' ∉ field) :
    '\t' ∉ (lastFor key fields).toList ∧ '\n' ∉ (lastFor key fields).toList := by
  obtain ⟨-, inside⟩ := lastFor_cases key fields
  constructor
  · intro member
    obtain ⟨field, known, member⟩ := inside _ member
    exact (separate field known).1 member
  · intro member
    obtain ⟨field, known, member⟩ := inside _ member
    exact (separate field known).2 member

theorem wellFormed_of_meant (free : '\n' ∉ line) (kept : ¬ Skipped line)
    (meant : FieldsMean names (line.splitOn '\t') (.ok candidate)) : candidate.WellFormed names := by
  have whole : ['\t'].intercalate (line.splitOn '\t') = line := List.intercalate_splitOn '\t'
  have separate : ∀ field ∈ line.splitOn '\t', '\t' ∉ field ∧ '\n' ∉ field := fun _ => separate_of_field free
  have shown := meant
  generalize split : line.splitOn '\t' = fields at meant whole separate
  cases meant with
  | @tag word file address rest doc named colons valid =>
    have later : ∀ field ∈ rest.dropLast, '\t' ∉ field ∧ '\n' ∉ field := fun field member =>
      separate field (by simp [List.mem_of_mem_dropLast member])
    have start : line.head? = word.head? := by
      obtain ⟨first, others, rfl⟩ := List.exists_cons_of_ne_nil named
      rw [← whole]
      rfl
    constructor
    · simpa [Candidate.ofParts] using named
    · rw [Candidate.ofParts, String.toList_ofList, ← start]
      exact fun header => kept (.inr header)
    · rfl
    · have owner := separate_lastFor "module" later
      have signature := separate_lastFor "string" later
      refine List.forall_mem_cons.mpr ⟨by simpa [Candidate.ofParts] using separate word (by simp), ?_⟩
      refine List.forall_mem_cons.mpr ⟨separate_lastFor "kind" later, List.forall_mem_singleton.mpr ?_⟩
      simp [Candidate.ofParts, owner, signature]
    · exact (lastFor_cases "kind" _).1
    · refine ⟨line, lastFor "module" rest.dropLast, lastFor "string" rest.dropLast, doc, free, shown, rfl, ?_, rfl, ?_⟩
      · simp only [List.forall_mem_cons]
        exact ⟨(lastFor_cases "module" _).1, (lastFor_cases "string" _).1, fun _ => nofun⟩
      · rw [split]
        exact valid

theorem unterminated_subset (line : List Char) : unterminated line ⊆ line :=
  List.Subset.trans (withoutFinal_subset _ _) (withoutFinal_subset _ _)

theorem wellFormed_of_read (free : '\n' ∉ line) (read : Line.read names (String.ofList line) = .ok (some candidate)) :
    candidate.WellFormed names := by
  have grammar := read_eq_iff.mp read
  rw [String.toList_ofList] at grammar
  cases grammar with
  | tag kept meant => exact wellFormed_of_meant (fun feed => free (unterminated_subset line feed)) kept meant

end Line

namespace TagFile

theorem line_of_result {lines : List (List Char)} {results : List (Option Candidate)} {result : Option Candidate}
    (read : List.Forall₂ (ReadAs names) lines results) (member : result ∈ results) :
    ∃ line ∈ lines, ReadAs names line result := by
  induction read with
  | nil => cases member
  | cons first _ ih =>
    rcases List.mem_cons.mp member with rfl | member
    · exact ⟨_, List.mem_cons_self .., first⟩
    · obtain ⟨line, known, read⟩ := ih member
      exact ⟨line, List.mem_cons_of_mem _ known, read⟩

theorem wellFormed_of_read {path : Path} {content : ByteArray} {candidates : List Candidate}
    (read : readOctets names path content = .ok candidates) : ∀ candidate ∈ candidates, candidate.WellFormed names := by
  rw [readOctets_eq, readLines_eq_ok_iff] at read
  obtain ⟨results, all, rfl⟩ := read
  intro candidate member
  obtain ⟨text, known, read⟩ := line_of_result all (List.reduceOption_mem_iff.mp member)
  obtain ⟨line, inside, rfl⟩ := List.mem_map.mp known
  exact Line.wellFormed_of_read (not_feed_lineText inside) read

end TagFile

theorem Host.wellFormed_of_load {σ : Type} {host : Host (StateM σ)} {path : Path} {candidates : List Candidate}
    {world next : σ} (loaded : (host.loadTags names path).run world = (.ok candidates, next)) :
    ∀ candidate ∈ candidates, candidate.WellFormed names := by
  have read : host.tags names world path = .ok candidates := by rw [← Cache.loadTags_run, loaded]
  rw [Host.tags] at read
  cases found : host.content world path with
  | error failure =>
    rw [found] at read
    cases read
  | ok content =>
    rw [found] at read
    exact TagFile.wellFormed_of_read read

end TagMenu
