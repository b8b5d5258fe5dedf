import Mathlib
import TagMenu.Proofs.Settings.Documented

namespace TagMenu.Settings

open Json (Tree Value Number member?)

variable {value : Value} {members : List (String × Value)} {name : String} {settings : Settings}
  {number : Number} {counts : Number → Prop}

def Field {α : Type} (members : List (String × Value)) (name : String) (states : Value → α → Prop) (default field : α) :
    Prop :=
  match member? name members with
  | none => field = default
  | some value => states value field

def StatesText (value : Value) (text : String) : Prop := value = Value.text text

def StatesTexts (value : Value) (items : List String) : Prop := value = Value.texts items

def StatesTagger (value : Value) (tagger : Tagger) : Prop :=
  ∃ members, value = .object members ∧ member? "program" members = some (Value.text tagger.program) ∧
    Field members "args" StatesTexts [] tagger.arguments

def StatesEviction (value : Value) (eviction : Eviction) : Prop :=
  ∃ members, value = .object members ∧
    match eviction with
    | .retain => member? "policy" members = some (Value.text "retain")
    | .idle refreshes => member? "policy" members = some (Value.text "idle") ∧
      member? "refreshes" members = some (Value.natural refreshes.toNat)

/-- Each field is a matter of one member, whatever the others are and wherever it stands among them. -/
structure States (members : List (String × Value)) (settings : Settings) : Prop where
  name : Field members "name" StatesText "julia" settings.name
  mark : Field members "mark" StatesText "[J]" settings.mark
  filetypes : Field members "filetypes" StatesTexts ["julia"] settings.filetypes
  tagFiles : Field members "tagFiles" (fun value paths => StatesTexts value (paths.map (·.text))) [] settings.tagFiles
  tagger : Field members "tagger" (fun value tagger => ∃ said, tagger = some said ∧ StatesTagger value said) none
    settings.tagger
  conflicting : Field members "conflictingSources" StatesTexts ["tag"]
    settings.conflicting
  eviction : Field members "eviction" StatesEviction .retain settings.eviction
  base : settings.base = none

section Field

variable {α : Type} {states : Value → α → Prop} {default said : α}

theorem Field.of_member (given : member? name members = some value) (stated : states value said) :
    Field members name states default said := by
  rwa [Field, given]

theorem Field.of_absent (absent : member? name members = none) : Field members name states default default := by
  rw [Field, absent]

theorem Field.cases (field : Field members name states default said) :
    (∃ value, member? name members = some value ∧ states value said) ∨
      (member? name members = none ∧ said = default) := by
  unfold Field at field
  cases given : member? name members with
  | none =>
    rw [given] at field
    exact .inr ⟨rfl, field⟩
  | some value =>
    rw [given] at field
    exact .inl ⟨value, rfl, field⟩

end Field

theorem Field.unique {α : Type} {states : Value → α → Prop} {default first second : α}
    (distinct : ∀ value, states value first → states value second → first = second)
    (one : Field members name states default first) (other : Field members name states default second) :
    first = second := by
  obtain ⟨value, given, stated⟩ | ⟨absent, rfl⟩ := one.cases
  · rw [Field, given] at other
    exact distinct value stated other
  · rw [Field, absent] at other
    exact other.symm

theorem StatesText.unique {first second : String} (one : StatesText value first) (other : StatesText value second) :
    first = second := by
  simpa [Value.text] using one.symm.trans other

theorem StatesTexts.unique {first second : List String} (one : StatesTexts value first)
    (other : StatesTexts value second) : first = second :=
  List.map_injective_iff.mpr (fun _ _ => StatesText.unique rfl) (Tree.list.inj (one.symm.trans other))

theorem StatesTagger.unique {first second : Tagger} (one : StatesTagger value first)
    (other : StatesTagger value second) : first = second := by
  obtain ⟨members, rfl, program, args⟩ := one
  obtain ⟨_, same, programToo, argsToo⟩ := other
  cases same
  have named := StatesText.unique rfl (Option.some.inj (program.symm.trans programToo))
  have given := args.unique (fun _ => StatesTexts.unique) argsToo
  cases first
  cases second
  exact congrArg₂ Tagger.mk named given

theorem StatesEviction.unique {first second : Eviction} (one : StatesEviction value first)
    (other : StatesEviction value second) : first = second := by
  obtain ⟨members, rfl, stated⟩ := one
  obtain ⟨_, same, statedToo⟩ := other
  cases same
  cases first <;> cases second <;> simp_all [Value.text, Value.natural, UInt32.toNat_inj]

theorem States.unique {other : Settings} (states : States members settings) (statesToo : States members other) :
    settings = other := by
  have paths : ∀ value (first second : List Path), StatesTexts value (first.map (·.text)) →
      StatesTexts value (second.map (·.text)) → first = second := fun _ _ _ one other =>
    List.map_injective_iff.mpr (fun _ _ => congrArg Path.mk) (one.unique other)
  have taggers : ∀ value (first second : Option Tagger), (∃ said, first = some said ∧ StatesTagger value said) →
      (∃ said, second = some said ∧ StatesTagger value said) → first = second := by
    rintro value _ _ ⟨one, rfl, stated⟩ ⟨other, rfl, statedToo⟩
    exact congrArg some (stated.unique statedToo)
  cases settings
  cases other
  rw [mk.injEq]
  exact ⟨states.name.unique (fun _ => StatesText.unique) statesToo.name,
    states.mark.unique (fun _ => StatesText.unique) statesToo.mark,
    states.filetypes.unique (fun _ => StatesTexts.unique) statesToo.filetypes,
    states.tagFiles.unique (fun value => paths value _ _) statesToo.tagFiles,
    states.tagger.unique (fun value => taggers value _ _) statesToo.tagger,
    states.conflicting.unique (fun _ => StatesTexts.unique) statesToo.conflicting,
    states.eviction.unique (fun _ => StatesEviction.unique) statesToo.eviction,
    states.base.trans statesToo.base.symm⟩

section Reading

variable {kept : List (String × Value)}

theorem readOr_sorted {α : Type} {states : Value → α → Prop} {read : Value → Except Refusal α}
    (found : member? name kept = (member? name members).map Value.sorted)
    (reads : ∀ value ∈ member? name members, ∃ said, read value.sorted = .ok said ∧ states value said) (default : α) :
    ∃ said, readOr default kept name read = .ok said ∧ Field members name states default said := by
  cases given : member? name members with
  | none =>
    rw [given] at found
    exact ⟨default, by rw [readOr, found]; rfl, .of_absent given⟩
  | some value =>
    rw [given] at found
    obtain ⟨said, taken, stated⟩ := reads value given
    exact ⟨said, by rw [readOr, found]; exact taken, .of_member given stated⟩

theorem readRequired_sorted {α : Type} (read : Value → Except Refusal α)
    (found : member? name kept = (member? name members).map Value.sorted) (given : member? name members = some value) :
    readRequired kept name read = read value.sorted := by
  rw [readRequired, found, given]
  rfl

theorem readTexts_texts (expected : String) (items : List String) :
    readTexts expected (Value.texts items).sorted = .ok items := by
  rw [Value.sorted_eq_texts.mpr rfl, Value.texts, readTexts, List.mapM_map]
  exact List.mapM_pure.trans (congrArg Except.ok (List.map_id items))

theorem readOr_text (found : member? name kept = (member? name members).map Value.sorted)
    (form : ∀ value ∈ member? name members, ∃ text, value = Value.text text) (expected default : String) :
    ∃ said, readOr default kept name (readText expected) = .ok said ∧ Field members name StatesText default said := by
  refine readOr_sorted found (fun value given => ?_) default
  obtain ⟨text, rfl⟩ := form value given
  exact ⟨text, rfl, rfl⟩

theorem readOr_texts (found : member? name kept = (member? name members).map Value.sorted)
    (form : ∀ value ∈ member? name members, ∃ items, value = Value.texts items) (expected : String)
    (default : List String) :
    ∃ said, readOr default kept name (readTexts expected) = .ok said ∧ Field members name StatesTexts default said := by
  refine readOr_sorted found (fun value given => ?_) default
  obtain ⟨items, rfl⟩ := form value given
  exact ⟨items, readTexts_texts expected items, rfl⟩

theorem readOr_paths (found : member? name kept = (member? name members).map Value.sorted)
    (form : ∀ value ∈ member? name members, ∃ items, value = Value.texts items) :
    ∃ paths, readOr [] kept name (fun value => (readTexts "path string" value).map (·.map Path.mk)) = .ok paths ∧
      Field members name (fun value paths => StatesTexts value (paths.map (·.text))) [] paths := by
  refine readOr_sorted found (fun value given => ?_) []
  obtain ⟨items, rfl⟩ := form value given
  refine ⟨items.map Path.mk, by rw [readTexts_texts]; rfl, ?_⟩
  rw [StatesTexts, List.map_map]
  exact congrArg Value.texts (List.map_id items).symm

theorem readTagger_sorted (form : IsTagger value) :
    ∃ tagger, readTagger value.sorted = .ok (some tagger) ∧ StatesTagger value tagger := by
  obtain ⟨members, rfl, -, ⟨program, -, given⟩, args⟩ := form
  obtain ⟨kept, sorted, -, found⟩ := Value.sorted_object members
  obtain ⟨arguments, read, stated⟩ := readOr_texts (found "args") args "a string" []
  refine ⟨⟨program, arguments⟩, ?_, members, rfl, given, stated⟩
  rw [sorted, readTagger, read, readRequired_sorted _ (found "program") given]
  rfl

theorem readOr_tagger (found : member? name kept = (member? name members).map Value.sorted)
    (form : ∀ value ∈ member? name members, IsTagger value) :
    ∃ tagger, readOr none kept name readTagger = .ok tagger ∧
      Field members name (fun value tagger => ∃ said, tagger = some said ∧ StatesTagger value said) none tagger := by
  refine readOr_sorted found (fun value given => ?_) none
  obtain ⟨tagger, read, stated⟩ := readTagger_sorted (form value given)
  exact ⟨some tagger, read, tagger, rfl, stated⟩

theorem readCount_whole {n : Int} (positive : 1 ≤ n) (small : n < 2 ^ 32) :
    ∃ refreshes : UInt32, readCount (.leaf (.number (.whole n))) = .ok refreshes ∧
      Value.natural refreshes.toNat = .leaf (.number (.whole n)) := by
  have count : (n.toNat.toUInt32.toNat : Int) = n := by
    rw [Nat.toUInt32_eq, UInt32.toNat_ofNat']
    omega
  exact ⟨n.toNat.toUInt32, by rw [readCount, if_pos ⟨by omega, small⟩], by rw [Value.natural, count]⟩

theorem readEviction_sorted (form : IsEviction Number.IsPositiveWhole value) :
    (∃ eviction, readEviction value.sorted = .ok eviction ∧ StatesEviction value eviction ∧
      IsEviction Number.IsCount value) ∨
    ∃ members number why, value = .object members ∧ member? "refreshes" members = some (.leaf (.number number)) ∧
      ¬ number.IsCount ∧ readEviction value.sorted = .error why := by
  obtain ⟨members, rfl, ⟨all, policy⟩ | ⟨all, policy, number, positive, given⟩⟩ := form
  · obtain ⟨kept, sorted, -, found⟩ := Value.sorted_object members
    refine .inl ⟨.retain, ?_, ⟨members, rfl, policy⟩, members, rfl, .inl ⟨all, policy⟩⟩
    rw [sorted, readEviction, readRequired_sorted _ (found "policy") policy]
    rfl
  · obtain ⟨kept, sorted, -, found⟩ := Value.sorted_object members
    have read : readEviction (Value.sorted (.object members)) =
        (readCount (.leaf (.number number))).map .idle := by
      rw [sorted, readEviction, readRequired_sorted _ (found "policy") policy,
        readRequired_sorted _ (found "refreshes") given, Value.sorted]
      cases readCount (.leaf (.number number)) <;> rfl
    rw [read]
    cases number with
    -- A double may be whole, as the condition asks for, but it is never read as a count.
    | double double => exact .inr ⟨members, .double double, _, rfl, given, id, rfl⟩
    | whole n =>
      by_cases small : n < 2 ^ 32
      · obtain ⟨refreshes, taken, same⟩ := readCount_whole positive small
        refine .inl ⟨.idle refreshes, by rw [taken]; rfl, ⟨members, rfl, policy, ?_⟩, members, rfl,
          .inr ⟨all, policy, .whole n, ⟨positive, small⟩, given⟩⟩
        rw [given, same]
      · refine .inr ⟨members, .whole n, .wrongNumber n "u32", rfl, given, fun count => small count.2, ?_⟩
        rw [readCount, if_neg fun both => small both.2]
        rfl

theorem ofMembers_sorted (documented : Documented Number.IsPositiveWhole members)
    (found : ∀ name, member? name kept = (member? name members).map Value.sorted) :
    (∃ settings, ofMembers kept = .ok settings ∧ States members settings ∧ Documented Number.IsCount members) ∨
    ∃ number why, Refreshes members number ∧ ¬ number.IsCount ∧ ofMembers kept = .error why := by
  obtain ⟨conflicting, conflictingRead, conflictingStated⟩ :=
    readOr_texts (found "conflictingSources") documented.conflicting "a string" ["tag"]
  obtain ⟨filetypes, filetypesRead, filetypesStated⟩ :=
    readOr_texts (found "filetypes") documented.filetypes "a string" ["julia"]
  obtain ⟨mark, markRead, markStated⟩ := readOr_text (found "mark") documented.mark "a string" "[J]"
  obtain ⟨name, nameRead, nameStated⟩ := readOr_text (found "name")
    (fun value given => (documented.name value given).imp fun _ => And.right) "a string" "julia"
  obtain ⟨tagFiles, tagFilesRead, tagFilesStated⟩ := readOr_paths (found "tagFiles") documented.tagFiles
  obtain ⟨tagger, taggerRead, taggerStated⟩ := readOr_tagger (found "tagger") documented.tagger
  have whole (eviction : Eviction) (read : readOr .retain kept "eviction" readEviction = .ok eviction) :
      ofMembers kept = .ok { name, mark, filetypes, tagFiles, tagger, conflicting, eviction } := by
    simp only [ofMembers, conflictingRead, read, filetypesRead, markRead, nameRead, tagFilesRead, taggerRead]
    rfl
  have states (eviction : Eviction) (stated : Field members "eviction" StatesEviction .retain eviction) :
      States members { name, mark, filetypes, tagFiles, tagger, conflicting, eviction } :=
    ⟨nameStated, markStated, filetypesStated, tagFilesStated, taggerStated, conflictingStated, stated, rfl⟩
  cases given : member? "eviction" members with
  | none =>
    have read : readOr .retain kept "eviction" readEviction = .ok .retain := by rw [readOr, found, given]; rfl
    exact .inl ⟨_, whole _ read, states _ (.of_absent given), documented.of_eviction (by simp [given])⟩
  | some value =>
    have taken : readOr .retain kept "eviction" readEviction = readEviction value.sorted := by
      rw [readOr, found, given]
      rfl
    obtain ⟨eviction, read, stated, counted⟩ | ⟨inner, number, why, rfl, refreshes, bad, read⟩ :=
      readEviction_sorted (documented.eviction value given)
    · exact .inl ⟨_, whole _ (taken.trans read), states _ (.of_member given stated),
        documented.of_eviction (by simpa [given] using counted)⟩
    · refine .inr ⟨number, why, ⟨inner, given, refreshes⟩, bad, ?_⟩
      simp only [ofMembers, conflictingRead, taken, read]
      rfl

end Reading

theorem ofText_cases {text : String} (parsed : Json.Loose.read text = some value) :
    (∃ members settings, value = .object members ∧ Documented Number.IsCount members ∧ States members settings ∧
      ofText text = .ok settings) ∨
    (∃ members number, value = .object members ∧ Documented Number.IsPositiveWhole members ∧
      Refreshes members number ∧ ¬ number.IsCount ∧ schema value.sorted = none ∧
      ∃ why, ofText text = .error (.refused why)) ∨
    ((∀ members, value = .object members → ¬ Documented Number.IsPositiveWhole members) ∧
      ∃ found, schema value.sorted = some found ∧ ofText text = .error (.violation found)) := by
  have read : ofText text = ofValue value.sorted := by rw [ofText, parsed]
  rw [read]
  cases checked : schema value.sorted with
  | some found =>
    have undocumented : ∀ members, value = .object members → ¬ Documented Number.IsPositiveWhole members :=
      fun members same documented =>
        Option.some_ne_none found (checked.symm.trans (schema_iff.mpr ⟨members, same, documented⟩))
    exact .inr (.inr ⟨undocumented, found, rfl, by simp only [ofValue, checked]⟩)
  | none =>
    obtain ⟨members, rfl, documented⟩ := schema_iff.mp checked
    obtain ⟨kept, sorted, -, found⟩ := Value.sorted_object members
    have taken : ofValue (Value.sorted (.object members)) = (ofMembers kept).mapError .refused := by
      rw [sorted] at checked ⊢
      simp only [ofValue, checked]
    rw [taken]
    obtain ⟨settings, ok, stated, counted⟩ | ⟨number, why, given, bad, refused⟩ := ofMembers_sorted documented found
    · exact .inl ⟨members, settings, rfl, counted, stated, by rw [ok]; rfl⟩
    · exact .inr (.inl ⟨members, number, rfl, documented, given, bad, rfl, why, by rw [refused]; rfl⟩)

/-- A text is read as settings if it holds an object whose members are all documented. Each field is then what its
    member states, or its default. What is in the way of other texts that meet the condition that is checked first is
    a number of refreshes. -/
theorem ofText_documented (text : String) (value : Value) (parsed : Json.Loose.read text = some value) :
    ((∃ settings, ofText text = .ok settings) ↔
      ∃ members, value = .object members ∧ Documented Number.IsCount members) ∧
    (∀ settings, ofText text = .ok settings → ∃ members, value = .object members ∧ States members settings) ∧
    ((schema value.sorted = none ∧ ∀ settings, ofText text ≠ .ok settings) ↔
      ∃ members, value = .object members ∧ Documented Number.IsPositiveWhole members ∧
        ∃ number, Refreshes members number ∧ ¬ number.IsCount) := by
  obtain ⟨members, settings, rfl, counted, stated, ok⟩ |
    ⟨members, number, rfl, whole, given, bad, passed, why, refused⟩ |
    ⟨undocumented, found, checked, refused⟩ := ofText_cases parsed
  · refine ⟨⟨fun _ => ⟨members, rfl, counted⟩, fun _ => ⟨settings, ok⟩⟩, fun other same => ?_, ⟨?_, ?_⟩⟩
    · cases ok.symm.trans same
      exact ⟨members, rfl, stated⟩
    · rintro ⟨-, never⟩
      exact absurd ok (never settings)
    · rintro ⟨_, same, -, number, given, bad⟩
      cases same
      exact absurd (counted.refreshes given) bad
  · rw [refused]
    refine ⟨⟨nofun, ?_⟩, nofun, fun _ => ⟨members, rfl, whole, number, given, bad⟩, fun _ => ⟨passed, nofun⟩⟩
    rintro ⟨_, same, counted⟩
    cases same
    exact absurd (counted.refreshes given) bad
  · rw [refused, checked]
    refine ⟨⟨nofun, ?_⟩, nofun, nofun, ?_⟩
    · rintro ⟨members, same, counted⟩
      exact absurd counted.weaken (undocumented members same)
    · rintro ⟨members, same, whole, -⟩
      exact absurd whole (undocumented members same)

/-- There is a comment, one name stands twice, a comma is missing, and a number is not decimal. -/
theorem ofText_documented_of_loose_text :
    let text := "\x7b'name':'a',/**/\"eviction\":\x7b\"refreshes\":0x2,\"policy\":\"idle\"\x7d\"name\":\"b\",\x7d"
    ∃ members, Json.Loose.read text = some (.object members) ∧ Documented Number.IsCount members ∧
      States members { name := "b", eviction := .idle 2 } := by
  intro text
  obtain ⟨value, parsed⟩ : ∃ value, Json.Loose.read text = some value :=
    Option.isSome_iff_exists.mp (by decide +kernel)
  obtain ⟨accepted, stated, -⟩ := ofText_documented text value parsed
  have read : (ofText text).toOption = some { name := "b", eviction := .idle 2 } := by decide +kernel
  have ok : ofText text = .ok { name := "b", eviction := .idle 2 } := by
    cases result : ofText text with
    | error error =>
      rw [result] at read
      cases read
    | ok settings =>
      rw [result] at read
      exact congrArg Except.ok (Option.some.inj read)
  obtain ⟨members, rfl, documented⟩ := accepted.mp ⟨_, ok⟩
  obtain ⟨_, same, states⟩ := stated _ ok
  cases same
  exact ⟨members, parsed, documented, states⟩

end TagMenu.Settings
