import Mathlib
import TagMenu.Command.Output
import TagMenu.Proofs.Json.Formed
import TagMenu.Proofs.Json.Strict

namespace TagMenu

open Json (IsText IsNumeral IsList IsObject IsValue Value)
open Json.Strict (Document MemberReadAs)

variable {candidate : Candidate} {chars value : List Char} {fields others members : List (String × List Char)}
  {trees : List (Option String × Document)} {name : String} {tree : Document}

namespace Candidate

def fieldNames : List String := ["word", "dup", "kind", "menu", "info"]

/-- The fields of a candidate, each with its name. A text may be written in any way, a number only by its digits. -/
inductive Fields (candidate : Candidate) : List (String × List Char) → Prop
  | stated {word kind menu info : List Char} (isWord : IsText candidate.word word)
      (isKind : IsText candidate.kind kind) (isMenu : IsText candidate.menu menu)
      (isInfo : IsText candidate.info info) :
      Fields candidate [("word", word), ("dup", (toString candidate.dup.toNat).toList), ("kind", kind), ("menu", menu),
        ("info", info)]

theorem octet?_repr (dup : UInt8) : octet? (.leaf (.numeral dup.toNat.repr)) = some dup := by
  have digits : ∀ c ∈ Nat.toDigits 10 dup.toNat, c.isDigit = true := (Json.isWhole_toDigits dup.toNat).1.2
  have shown : dup.toNat.repr.toList = Nat.toDigits 10 dup.toNat := Json.toList_natural dup.toNat
  have small : dup.toNat < 256 := dup.toNat_lt
  rw [octet?, shown, Json.mapM_decimalValue? digits]
  simp only [Option.bind_eq_bind, Option.bind_some, Json.numeral_toDigits, small, if_true]
  exact congrArg some UInt8.ofNat_toNat

theorem names_known (alike : List.Forall₂ MemberReadAs members trees) : trees.all (·.1.isSome) = true := by
  induction alike with
  | nil => rfl
  | cons first later ih => simpa [first.1] using ih

theorem only?_of_once (alike : List.Forall₂ MemberReadAs members trees)
    (once : members.filter (·.1 == name) = [(name, value)])
    (known : Json.Strict.read (String.ofList value) = some tree) : only? name trees = some tree := by
  have same {member : String × List Char} {tree : Option String × Document} (readAs : MemberReadAs member tree) :
      (member.1 == name) = true ↔ (tree.1 == some name) = true := by
    simp [readAs.1]
  have found := List.rel_filter (R := MemberReadAs) (fun _ _ => same) alike
  rw [once] at found
  obtain ⟨⟨_, tree⟩, rest, ⟨rfl, read⟩, none, filtered⟩ := List.forall₂_cons_left_iff.mp found
  cases none
  cases known.symm.trans read
  rw [only?, filtered]

theorem once_of_perm (order : members.Perm (fields ++ others))
    (unknown : ∀ other ∈ others, other.1 ∉ fieldNames) (listed : name ∈ fieldNames)
    (once : fields.filter (·.1 == name) = [(name, value)]) : members.filter (·.1 == name) = [(name, value)] := by
  have none : others.filter (·.1 == name) = [] := by
    rw [List.filter_eq_nil_iff]
    rintro other inside same
    exact unknown other inside (eq_of_beq same ▸ listed)
  have filtered := order.filter (·.1 == name)
  rwa [List.filter_append, once, none, List.append_nil, List.perm_singleton] at filtered

theorem ofTree?_object (alike : List.Forall₂ MemberReadAs members trees) (order : members.Perm (fields ++ others))
    (stated : candidate.Fields fields) (unknown : ∀ other ∈ others, other.1 ∉ fieldNames) :
    ofTree? (.object trees) = some candidate := by
  have found {name : String} {value : List Char} {tree : Document} (listed : name ∈ fieldNames)
      (once : fields.filter (·.1 == name) = [(name, value)])
      (known : Json.Strict.read (String.ofList value) = some tree) : only? name trees = some tree :=
    only?_of_once alike (once_of_perm order unknown listed once) known
  cases stated with
  | @stated word kind menu info isWord isKind isMenu isInfo =>
    have digits : IsNumeral (toString candidate.dup.toNat).toList := Json.isNumeral_natural candidate.dup.toNat
    have word := found (by decide : "word" ∈ fieldNames) rfl (Json.Strict.read_text isWord)
    have dup := found (by decide : "dup" ∈ fieldNames) rfl (Json.Strict.read_numeral digits)
    have kind := found (by decide : "kind" ∈ fieldNames) rfl (Json.Strict.read_text isKind)
    have menu := found (by decide : "menu" ∈ fieldNames) rfl (Json.Strict.read_text isMenu)
    have info := found (by decide : "info" ∈ fieldNames) rfl (Json.Strict.read_text isInfo)
    rw [String.ofList_toList] at dup
    simp [ofTree?, names_known alike, word, dup, kind, menu, info, text?, octet?_repr]

theorem ofJson?_object (object : IsObject members chars) (order : members.Perm (fields ++ others))
    (stated : candidate.Fields fields) (unknown : ∀ other ∈ others, other.1 ∉ fieldNames) :
    ofJson? (String.ofList chars) = some candidate := by
  obtain ⟨trees, read, alike⟩ := Json.Strict.read_object object
  rw [ofJson?, read]
  exact ofTree?_object alike order stated unknown

theorem fields_toJson (candidate : Candidate) (depth : Nat) :
    ∃ fields, candidate.Fields fields ∧ IsObject fields (candidate.toJson.indented depth).toList := by
  have text (content : String) : IsText content (Value.indented (depth + 1) (Value.text content)).toList :=
    Json.isText_quoteText content
  have numeral (n : Nat) : IsValue (Value.indented (depth + 1) (Value.natural n)).toList :=
    .numeral (Json.isNumeral_natural n)
  have each : ∀ member ∈ [("word", Value.text candidate.word), ("dup", Value.natural candidate.dup.toNat),
      ("kind", Value.text candidate.kind), ("menu", Value.text candidate.menu), ("info", Value.text candidate.info)],
      IsValue (member.2.indented (depth + 1)).toList := by
    simp [(text _).isValue, numeral]
  have object := Json.isObject_indented each
  exact ⟨_, .stated (text candidate.word) (text candidate.kind) (text candidate.menu) (text candidate.info), object⟩

end Candidate

namespace Command

theorem listed_render (candidates : List Candidate) :
    IsList (candidates.map fun candidate => (candidate.toJson.indented 1).toList)
      (Format.json.render candidates).toList := by
  have each : ∀ item ∈ candidates.map Candidate.toJson, IsValue (Value.indented 1 item).toList := by
    rw [List.forall_mem_map]
    intro candidate _
    obtain ⟨fields, -, object⟩ := candidate.fields_toJson 1
    exact object.isValue
  have list := (Json.isList_indented each).append (show Json.Blanks ['\n'] by simp [Json.Blanks])
  rw [List.map_map] at list
  have shown : (Format.json.render candidates).toList =
      (Value.indented 0 (.list (candidates.map Candidate.toJson))).toList ++ ['\n'] := by
    simp [Format.render, Candidate.listToJson, Value.pretty]
  rw [shown]
  exact list

/-- What is printed as JSON is a list with an object for each candidate in order, whose members are the fields under
    their names; the candidate is read back from it where it stands in the list and on its own. It is read from every
    object that states the same fields, in any order, spelled in any way, and with members of other names between
    them. -/
theorem json_can_be_read_back :
    (∀ candidates : List Candidate, ∃ items trees,
      IsList items (Format.json.render candidates).toList ∧
      Json.Strict.read (Format.json.render candidates) = some (.list trees) ∧
      trees.map Candidate.ofTree? = candidates.map some ∧
      List.Forall₂ (fun candidate item => Candidate.ofJson? (String.ofList item) = some candidate ∧
        ∃ fields, candidate.Fields fields ∧ IsObject fields item) candidates items) ∧
    ∀ (candidate : Candidate) (text : String) (fields others members : List (String × List Char)),
      candidate.Fields fields → (∀ other ∈ others, other.1 ∉ Candidate.fieldNames) →
      members.Perm (fields ++ others) → IsObject members text.toList → Candidate.ofJson? text = some candidate := by
  refine ⟨fun candidates => ?_, fun candidate text fields others members stated unknown order object => ?_⟩
  · have list := listed_render candidates
    obtain ⟨trees, read, each⟩ := Json.Strict.read_list list
    rw [String.ofList_toList] at read
    have alone (candidate : Candidate) :
        Candidate.ofJson? (String.ofList (candidate.toJson.indented 1).toList) = some candidate := by
      obtain ⟨fields, stated, object⟩ := candidate.fields_toJson 1
      exact Candidate.ofJson?_object object (.of_eq (List.append_nil fields).symm) stated (by simp)
    refine ⟨_, trees, list, read, ?_, ?_⟩
    · have bound := congrArg (List.map (Option.bind · Candidate.ofTree?)) each
      rw [List.map_map, List.map_map, List.map_map] at bound
      have shown : candidates.map some = trees.map Candidate.ofTree? :=
        (List.map_congr_left fun candidate _ => (alone candidate).symm).trans bound
      exact shown.symm
    · rw [List.forall₂_map_right_iff, List.forall₂_same]
      exact fun candidate _ => ⟨alone candidate, candidate.fields_toJson 1⟩
  · have read := Candidate.ofJson?_object object order stated unknown
    rwa [String.ofList_toList] at read

theorem json_can_be_read_back_of_shuffled :
    Candidate.ofJson? ("\x7b\"info\": \"\\ud83d\\ude00\", \"more\": [\"\\ud800\", null], \"dup\": 255, " ++
      "\"word\": \"\\\"a\"\n, \"menu\": \"\", \"kind\": \"f\"\x7d") = some ⟨"\"a", 255, "f", "", "😀"⟩ := by
  have printed := Json.isText_quoteText
  have unit (a b c d : Nat) (digits : ∀ value ∈ [a, b, c, d], value < 16) :
      Json.Piece.Spelled (.unit (Text.numeral 16 [a, b, c, d])) ('\\' :: 'u' :: [a, b, c, d].map Nat.digitChar) := by
    refine .unit ?_ rfl
    rw [List.forall₂_map_right_iff, List.forall₂_same]
    exact fun value inside => ⟨digits value inside, .inl rfl⟩
  have made : Json.MakeUp [.unit 0xD83D, .unit 0xDE00] ['😀'] := .pair (by decide) (by decide) rfl .nothing
  have info : IsText "😀" _ :=
    ⟨_, ⟨_, .cons (unit 13 8 3 13 (by decide)) (.cons (unit 13 14 0 0 (by decide)) .nil), rfl⟩, made⟩
  -- Half of a pair says nothing, but it may stand in a member of another name.
  have half : Json.IsQuoted [.unit 0xD800] _ := ⟨_, .cons (unit 13 8 0 0 (by decide)) .nil, rfl⟩
  have blank : Json.Blanks [' '] := by simp [Json.Blanks]
  have comma : Json.IsMark ',' [',', ' '] := (Json.isMark_self ',').append blank
  have later : Json.IsMark ',' ['\n', ',', ' '] := comma.after (show Json.Blanks ['\n'] by simp [Json.Blanks])
  have colon : Json.IsMark ':' [':', ' '] := (Json.isMark_self ':').append blank
  have more : IsValue _ := .list (Json.isMark_self '[') (.more comma .one) (Json.isMark_self ']')
    (List.forall_mem_cons.mpr ⟨.text half, List.forall_mem_singleton.mpr (.word (by simp : "null" ∈ _))⟩)
  have member {name : String} {value : List Char} (isValue : IsValue value) :
      Json.IsMember (name, value) ((Value.quoteText name).toList ++ [':', ' '] ++ value) :=
    ⟨_, _, printed name, colon, isValue, rfl⟩
  have object : IsObject [("info", _), ("more", _), ("dup", _), ("word", _), ("menu", _), ("kind", _)] _ :=
    ⟨_, _, _, _, Json.isMark_self '\x7b',
      .cons (member info.isValue) (.cons (member more) (.cons (member (.numeral (Json.isNumeral_natural 255)))
        (.cons (member (printed "\"a").isValue) (.cons (member (printed "").isValue)
          (.cons (member (printed "f").isValue) .nil))))),
      .more comma (.more comma (.more comma (.more later (.more comma .one)))), Json.isMark_self '\x7d', rfl⟩
  have stated : Candidate.Fields ⟨"\"a", 255, "f", "", "😀"⟩ _ := .stated (printed _) (printed _) (printed _) info
  refine json_can_be_read_back.2 _ _ _ [("more", "[\"\\ud800\", null]".toList)] _ stated ?unknown ?order
    (Eq.subst (motive := IsObject _) ?same object)
  case unknown => simp [Candidate.fieldNames]
  case order => decide +kernel
  case same => decide +kernel

end Command

end TagMenu
