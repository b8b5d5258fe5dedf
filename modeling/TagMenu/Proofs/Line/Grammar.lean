import Mathlib
import TagMenu.Tag.Line
import TagMenu.Proofs.Text.Split

namespace TagMenu.Line

open Unicode (NameTable)

variable {names : NameTable} {line field key : List Char} {fields before after rest : List (List Char)}
  {result : Except Fault Candidate}

def withoutFinal (c : Char) (chars : List Char) : List Char :=
  if chars.getLast? = some c then chars.dropLast else chars

def unterminated (line : List Char) : List Char := withoutFinal '\r' (withoutFinal '\n' line)

def Skipped (line : List Char) : Prop := (∀ c ∈ line, Text.isBlank c = true) ∨ line.head? = some '!'

def bare (chars : List Char) : List Char := (chars.dropWhile Text.isBlank).rdropWhile Text.isBlank

def keyOf (field : List Char) : List Char := bare (field.takeWhile (· ≠ ':'))

def contentOf (field : List Char) : List Char := bare (field.dropWhile (· ≠ ':')).tail

def lastOf (key : List Char) (fields : List (List Char)) : Option (List Char) :=
  ((fields.filter (keyOf · = key)).getLast?).map contentOf

def lastFor (key : String) (fields : List (List Char)) : String := String.ofList ((lastOf key.toList fields).getD [])

/-- What the fields of a line say. Behind the third field, each but the last has a key and a value. -/
inductive FieldsMean (names : NameTable) : List (List Char) → Except Fault Candidate → Prop
  | tooFewFields {fields : List (List Char)} (few : fields.length < 3) :
      FieldsMean names fields (.error (.tooFewFields fields.length))
  | emptyWord {file address : List Char} {rest : List (List Char)} :
      FieldsMean names ([] :: file :: address :: rest) (.error .emptyWord)
  | malformedField {word file address field : List Char} {rest before after : List (List Char)} (named : word ≠ [])
      (leftmost : rest.dropLast = before ++ field :: after) (colons : ∀ field ∈ before, ':' ∈ field)
      (malformed : ':' ∉ field) :
      FieldsMean names (word :: file :: address :: rest) (.error (.malformedField (String.ofList field)))
  | invalidEscape {word file address : List Char} {rest : List (List Char)} {error : Escape.Error} (named : word ≠ [])
      (colons : ∀ field ∈ rest.dropLast, ':' ∈ field)
      (invalid : Escape.decode names (lastFor "doc" rest.dropLast) = .error error) :
      FieldsMean names (word :: file :: address :: rest) (.error (.invalidEscape error))
  | tag {word file address : List Char} {rest : List (List Char)} {doc : String} (named : word ≠ [])
      (colons : ∀ field ∈ rest.dropLast, ':' ∈ field)
      (valid : Escape.decode names (lastFor "doc" rest.dropLast) = .ok doc) :
      FieldsMean names (word :: file :: address :: rest) (.ok (.ofParts (String.ofList word)
        (lastFor "kind" rest.dropLast) (lastFor "module" rest.dropLast) (lastFor "string" rest.dropLast) doc))

/-- What a line says. An error carries the line that it is about. -/
inductive Grammar (names : NameTable) (line : List Char) : Except Error (Option Candidate) → Prop
  | skipped (skipped : Skipped line) : Grammar names line (.ok none)
  | fault {fault : Fault} (kept : ¬ Skipped line) (meant : FieldsMean names (line.splitOn '\t') (.error fault)) :
      Grammar names line (.error ⟨fault, String.ofList line⟩)
  | tag {candidate : Candidate} (kept : ¬ Skipped line)
      (meant : FieldsMean names (line.splitOn '\t') (.ok candidate)) : Grammar names line (.ok (some candidate))

theorem dropTerminator_eq (line : List Char) : Text.dropTerminator line = unterminated line := by
  rw [Text.dropTerminator, Text.dropFinal_eq, Text.dropFinal_eq]
  rfl

theorem isSkipped_iff : isSkipped line = true ↔ Skipped line := by
  simp [isSkipped, Skipped]

theorem extension?_of_colon (colon : ':' ∈ field) : extension? field = some (keyOf field, contentOf field) := by
  rw [extension?, Text.cutFirst?_of_mem colon]
  simp only [Option.map_some, Text.trimChars_eq]
  rfl

theorem extension?_eq_none (malformed : ':' ∉ field) : extension? field = none := by
  rw [extension?, Text.cutFirst?_eq_none malformed]
  rfl

theorem lookup_pair (key value other : List Char) (values : Values) :
    List.lookup other ((key, value) :: values) = if other = key then some value else values.lookup other := by
  rw [List.lookup_cons]
  split <;> simp_all

theorem lookup_put (values : Values) (key value other : List Char) :
    (values.put key value).lookup other = if other = key then some value else values.lookup other := by
  induction values with
  | nil => exact lookup_pair key value other []
  | cons pair rest ih =>
    obtain ⟨kept, old⟩ := pair
    by_cases replaced : kept = key
    · subst replaced
      by_cases same : other = kept <;> simp [Values.put, lookup_pair, same]
    · by_cases found : other = kept
      · subst found
        simp [Values.put, replaced]
      · simp [Values.put, lookup_pair, replaced, found, ih]

theorem lastOf_append (key : List Char) (before after : List (List Char)) :
    lastOf key (before ++ after) = (lastOf key after).or (lastOf key before) := by
  rw [lastOf, List.filter_append, List.getLast?_append, Option.map_or]
  rfl

theorem lastOf_singleton (key field : List Char) :
    lastOf key [field] = if keyOf field = key then some (contentOf field) else none := by
  by_cases same : keyOf field = key <;> simp [lastOf, same]

theorem addExtensions_of_colons (colons : ∀ field ∈ fields, ':' ∈ field) (values : Values) :
    ∃ final, addExtensions values fields = .ok final ∧
      ∀ key, final.lookup key = (lastOf key fields).or (values.lookup key) := by
  -- The values so far count for the keys that none of the fields still to come has.
  induction fields generalizing values with
  | nil => exact ⟨values, rfl, fun key => rfl⟩
  | cons field rest ih =>
    rw [List.forall_mem_cons] at colons
    obtain ⟨final, added, lookups⟩ := ih colons.2 (values.put (keyOf field) (contentOf field))
    refine ⟨final, ?_, fun key => ?_⟩
    · rw [addExtensions, extension?_of_colon colons.1]
      exact added
    · rw [lookups, lookup_put, ← List.singleton_append, lastOf_append, lastOf_singleton]
      by_cases same : key = keyOf field
      · simp [same]
      · simp [same, Ne.symm same]

theorem addExtensions_malformed (colons : ∀ field ∈ before, ':' ∈ field) (malformed : ':' ∉ field)
    (values : Values) :
    addExtensions values (before ++ field :: after) = .error (.malformedField (String.ofList field)) := by
  induction before generalizing values with
  | nil => rw [List.nil_append, addExtensions, extension?_eq_none malformed]
  | cons first rest ih =>
    rw [List.forall_mem_cons] at colons
    rw [List.cons_append, addExtensions, extension?_of_colon colons.1]
    exact ih colons.2 _

theorem addExtensions_lastFor (colons : ∀ field ∈ fields, ':' ∈ field) :
    ∃ values, addExtensions [] fields = .ok values ∧ ∀ key, valueOf key values = lastFor key fields := by
  obtain ⟨values, added, lookups⟩ := addExtensions_of_colons colons []
  refine ⟨values, added, fun key => ?_⟩
  rw [valueOf, lookups, List.lookup_nil, Option.or_none, lastFor]

theorem candidate_of_meant (meant : FieldsMean names fields result) : candidate names fields = result := by
  cases meant with
  | tooFewFields few =>
    rcases fields with _ | ⟨word, _ | ⟨file, _ | ⟨address, rest⟩⟩⟩
    · rfl
    · rfl
    · rfl
    · simp only [List.length_cons] at few
      omega
  | emptyWord => rfl
  | malformedField named leftmost colons malformed =>
    rw [candidate, if_neg (by simpa using named), leftmost, addExtensions_malformed colons malformed]
    rfl
  | invalidEscape named colons invalid =>
    obtain ⟨values, added, lookups⟩ := addExtensions_lastFor colons
    rw [candidate, if_neg (by simpa using named), added]
    simp only [lookups, invalid, Bind.bind, Except.bind, Except.mapError]
  | tag named colons valid =>
    obtain ⟨values, added, lookups⟩ := addExtensions_lastFor colons
    rw [candidate, if_neg (by simpa using named), added]
    simp only [lookups, valid, Bind.bind, Except.bind, Except.mapError]
    rfl

theorem colons_or_leftmost (fields : List (List Char)) :
    (∀ field ∈ fields, ':' ∈ field) ∨ ∃ before field after, fields = before ++ field :: after ∧
      (∀ field ∈ before, ':' ∈ field) ∧ ':' ∉ field := by
  induction fields with
  | nil => exact .inl (by simp)
  | cons first rest ih =>
    by_cases colon : ':' ∈ first
    · rcases ih with colons | ⟨before, field, after, rfl, colons, malformed⟩
      · exact .inl (List.forall_mem_cons.mpr ⟨colon, colons⟩)
      · exact .inr ⟨first :: before, field, after, rfl, List.forall_mem_cons.mpr ⟨colon, colons⟩, malformed⟩
    · exact .inr ⟨[], first, rest, rfl, by simp, colon⟩

theorem exists_meant (names : NameTable) (fields : List (List Char)) : ∃ result, FieldsMean names fields result := by
  rcases fields with _ | ⟨word, _ | ⟨file, _ | ⟨address, rest⟩⟩⟩
  · exact ⟨_, .tooFewFields (by decide)⟩
  · exact ⟨_, .tooFewFields (by simp)⟩
  · exact ⟨_, .tooFewFields (by simp)⟩
  · by_cases named : word = []
    · subst named
      exact ⟨_, .emptyWord⟩
    · rcases colons_or_leftmost rest.dropLast with colons | ⟨before, field, after, leftmost, colons, malformed⟩
      · cases decoded : Escape.decode names (lastFor "doc" rest.dropLast) with
        | error error => exact ⟨_, .invalidEscape named colons decoded⟩
        | ok doc => exact ⟨_, .tag named colons decoded⟩
      · exact ⟨_, .malformedField named leftmost colons malformed⟩

theorem read_of_grammar {line : String} {result : Except Error (Option Candidate)}
    (grammar : Grammar names (unterminated line.toList) result) : Line.read names line = result := by
  unfold Line.read
  rw [dropTerminator_eq]
  dsimp only
  cases grammar with
  | skipped skipped => rw [if_pos (isSkipped_iff.mpr skipped)]
  | fault kept meant =>
    rw [if_neg (kept ∘ isSkipped_iff.mp), Text.pieces_eq_splitOn, candidate_of_meant meant]
  | tag kept meant =>
    rw [if_neg (kept ∘ isSkipped_iff.mp), Text.pieces_eq_splitOn, candidate_of_meant meant]

theorem exists_grammar (names : NameTable) (line : List Char) : ∃ result, Grammar names line result := by
  by_cases skipped : Skipped line
  · exact ⟨_, .skipped skipped⟩
  · obtain ⟨result, meant⟩ := exists_meant names (line.splitOn '\t')
    cases result with
    | error fault => exact ⟨_, .fault skipped meant⟩
    | ok candidate => exact ⟨_, .tag skipped meant⟩

theorem read_eq_iff {line : String} {result : Except Error (Option Candidate)} :
    Line.read names line = result ↔ Grammar names (unterminated line.toList) result := by
  constructor
  · intro same
    obtain ⟨found, grammar⟩ := exists_grammar names (unterminated line.toList)
    rwa [← same, read_of_grammar grammar]
  · exact read_of_grammar

def keys : List String := ["kind", "module", "string", "doc"]

/-- A change among the fields with keys and values that does not matter: of a field with a key that is not
    read, of one with a later one for the same key, of the blanks in a field, or of the order. -/
inductive Edited : List (List Char) → List (List Char) → Prop
  | unknown (before after : List (List Char)) {field : List Char}
      (unread : ∀ key ∈ keys, keyOf field ≠ key.toList) : Edited (before ++ after) (before ++ field :: after)
  | overridden (before : List (List Char)) {after : List (List Char)} {field : List Char}
      (later : ∃ other ∈ after, keyOf other = keyOf field) : Edited (before ++ after) (before ++ field :: after)
  | spaced (before after : List (List Char)) {field other : List Char} (sameKey : keyOf field = keyOf other)
      (sameContent : contentOf field = contentOf other) : Edited (before ++ field :: after) (before ++ other :: after)
  | swapped (before after : List (List Char)) {field other : List Char} (different : keyOf field ≠ keyOf other) :
      Edited (before ++ field :: other :: after) (before ++ other :: field :: after)

theorem lastOf_cons (key field : List Char) (rest : List (List Char)) :
    lastOf key (field :: rest) =
      (lastOf key rest).or (if keyOf field = key then some (contentOf field) else none) := by
  rw [← List.singleton_append, lastOf_append, lastOf_singleton]

theorem lastOf_isSome (other : ∃ other ∈ fields, keyOf other = key) : (lastOf key fields).isSome := by
  obtain ⟨other, member, same⟩ := other
  have kept : other ∈ fields.filter (keyOf · = key) := List.mem_filter.mpr ⟨member, by simpa using same⟩
  rw [lastOf, Option.isSome_map, List.getLast?_isSome]
  exact List.ne_nil_of_mem kept

theorem Edited.lastFor_eq {key : String} (edited : Edited fields rest) (read : key ∈ keys) :
    lastFor key fields = lastFor key rest := by
  suffices same : lastOf key.toList fields = lastOf key.toList rest by rw [lastFor, lastFor, same]
  cases edited with
  | unknown before after unread =>
    rw [lastOf_append, lastOf_append, lastOf_cons, if_neg (unread key read), Option.or_none]
  | overridden before later =>
    rename_i after field
    rw [lastOf_append, lastOf_append, lastOf_cons]
    by_cases same : keyOf field = key.toList
    · have found : (lastOf key.toList after).isSome := lastOf_isSome (same ▸ later)
      rw [Option.or_assoc, Option.or_of_isSome found, Option.or_of_isSome found]
    · rw [if_neg same, Option.or_none]
  | spaced before after sameKey sameContent =>
    rw [lastOf_append, lastOf_append, lastOf_cons, lastOf_cons, sameKey, sameContent]
  | swapped before after different =>
    rename_i field other
    rw [lastOf_append, lastOf_append, lastOf_cons, lastOf_cons, lastOf_cons, lastOf_cons]
    -- At most one of the two has the key, so their order is nothing to it.
    by_cases first : keyOf field = key.toList
    · rw [if_neg (first ▸ different.symm), Option.or_none, Option.or_none]
    · rw [if_neg first, Option.or_none, Option.or_none]

theorem lastFor_eq {key : String} (edited : Relation.EqvGen Edited fields rest) (read : key ∈ keys) :
    lastFor key fields = lastFor key rest := by
  induction edited with
  | rel fields rest edited => exact edited.lastFor_eq read
  | refl fields => rfl
  | symm fields rest edited ih => exact ih.symm
  | trans fields middle rest first second ih ihSecond => exact ih.trans ihSecond

/-- A line means exactly one thing, as the grammar has it, and a line with a tag means the same with other
    fields before and behind those with keys, and when these are edited. -/
theorem read_by_grammar (names : NameTable) :
    (∀ (line : String) (result : Except Error (Option Candidate)),
      Line.read names line = result ↔ Grammar names (unterminated line.toList) result) ∧
    (∀ line : String, Line.read names line = .ok none ↔ Skipped (unterminated line.toList)) ∧
    ∀ (line other : String) (word file file' address address' : List Char) (rest rest' : List (List Char))
      (candidate : Candidate),
      (unterminated line.toList).splitOn '\t' = word :: file :: address :: rest →
      (unterminated other.toList).splitOn '\t' = word :: file' :: address' :: rest' →
      Relation.EqvGen Edited rest.dropLast rest'.dropLast →
      ¬ Skipped (unterminated other.toList) → (∀ field ∈ rest'.dropLast, ':' ∈ field) →
      Line.read names line = .ok (some candidate) → Line.read names other = .ok (some candidate) := by
  refine ⟨fun line result => read_eq_iff, fun line => ?_, ?_⟩
  · rw [read_eq_iff]
    constructor
    · rintro ⟨skipped⟩
      exact skipped
    · exact .skipped
  · intro line other word file file' address address' rest rest' candidate split split' edited kept colons same
    obtain _ | _ | ⟨-, meant⟩ := read_eq_iff.mp same
    rw [split] at meant
    cases meant with
    | tag named _ valid =>
      -- The other line has the same word and the same four values.
      have last (key : String) (read : key ∈ keys) := lastFor_eq edited read
      rw [last "doc" (by decide)] at valid
      rw [last "kind" (by decide), last "module" (by decide), last "string" (by decide)]
      refine read_eq_iff.mpr (.tag kept ?_)
      rw [split']
      exact .tag named colons valid

theorem read_by_grammar_of_edited :
    let names : NameTable := fun _ => none
    let line := "w\tf\t1\tkind:a\tline:2\t kind : m\tdoc:x\\ty\tlast\r\n"
    let other := "w\t\t\tkind:m\tdoc:x\\ty\t"
    Line.read names line = .ok (some (.ofParts "w" "m" "" "" "x\ty")) ∧
      Line.read names other = .ok (some (.ofParts "w" "m" "" "" "x\ty")) := by
  intro names line other
  have same : Line.read names line = .ok (some (.ofParts "w" "m" "" "" "x\ty")) := by decide
  have split : (unterminated line.toList).splitOn '\t' = ["w", "f", "1", "kind:a", "line:2", " kind : m", "doc:x\\ty",
      "last"].map String.toList := by decide
  have splitOther : (unterminated other.toList).splitOn '\t' = ["w", "", "", "kind:m", "doc:x\\ty", ""].map
      String.toList := by decide
  have overridden : Edited (["line:2", " kind : m", "doc:x\\ty"].map String.toList)
      (["kind:a", "line:2", " kind : m", "doc:x\\ty"].map String.toList) :=
    .overridden [] ⟨" kind : m".toList, by decide, by decide⟩
  have unknown : Edited ([" kind : m", "doc:x\\ty"].map String.toList)
      (["line:2", " kind : m", "doc:x\\ty"].map String.toList) := .unknown [] _ (by decide)
  have spaced : Edited ([" kind : m", "doc:x\\ty"].map String.toList) (["kind:m", "doc:x\\ty"].map String.toList) :=
    .spaced [] _ (by decide) (by decide)
  have edited := ((Relation.EqvGen.rel _ _ overridden).symm.trans _ _ _ (.symm _ _ (.rel _ _ unknown))).trans _ _ _
    (.rel _ _ spaced)
  have kept : ¬ Skipped (unterminated other.toList) := by
    rw [← isSkipped_iff]
    decide
  exact ⟨same, (read_by_grammar names).2.2 line other _ _ _ _ _ _ _ _ split splitOther edited kept (by decide) same⟩

end TagMenu.Line
