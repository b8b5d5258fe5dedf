import Mathlib
import TagMenu.Proofs.Json.Reread
import TagMenu.Proofs.Settings.Stated

namespace TagMenu.Settings

open Json (Value Number member?)

variable {settings : Settings} {members : List (String × Value)} {text name : String} {counts : Number → Prop}

/-- What is asked of the fields of settings; the base is not kept with them. -/
structure WellFormed (settings : Settings) : Prop where
  name : settings.name ≠ ""
  tagger : ∀ tagger ∈ settings.tagger, tagger.program ≠ ""
  eviction : ∀ refreshes, settings.eviction = .idle refreshes → 1 ≤ refreshes
  base : settings.base = none

theorem wellFormed_of_states (documented : Documented Number.IsCount members) (states : States members settings) :
    WellFormed settings where
  name := by
    obtain ⟨value, given, stated⟩ | ⟨-, same⟩ := states.name.cases
    · obtain ⟨text, filled, rfl⟩ := documented.name value given
      rwa [← StatesText.unique (rfl : StatesText _ text) stated]
    · rw [same]
      decide
  tagger := by
    intro tagger present
    obtain ⟨value, given, said, same, _, rfl, stated, -⟩ | ⟨-, same⟩ := states.tagger.cases
    · obtain ⟨inner, eq, -, ⟨program, filled, named⟩, -⟩ := documented.tagger _ given
      cases eq
      cases same.symm.trans present
      rwa [← StatesText.unique (rfl : StatesText _ program) (Option.some.inj (named.symm.trans stated))]
    · cases same.symm.trans present
  eviction := by
    intro refreshes idle
    obtain ⟨value, given, inner, rfl, stated⟩ | ⟨-, same⟩ := states.eviction.cases
    · rw [idle] at stated
      have count : Number.IsCount (.whole refreshes.toNat) := documented.refreshes ⟨inner, given, stated.2⟩
      rw [UInt32.le_iff_toNat_le]
      exact Int.ofNat_le.mp count.1
    · cases same.symm.trans idle
  base := states.base

theorem wellFormed_of_ofText (read : ofText text = .ok settings) : WellFormed settings := by
  obtain ⟨value, parsed⟩ : ∃ value, Json.Loose.read text = some value := by
    cases parsed : Json.Loose.read text with
    | none =>
      rw [ofText, parsed] at read
      cases read
    | some value => exact ⟨value, rfl⟩
  obtain ⟨members, other, -, documented, states, ok⟩ | ⟨_, _, -, -, -, -, -, _, refused⟩ | ⟨-, _, -, refused⟩ :=
    ofText_cases parsed
  · cases ok.symm.trans read
    exact wellFormed_of_states documented states
  · cases refused.symm.trans read
  · cases refused.symm.trans read

def written (settings : Settings) : List (String × Value) :=
  [("name", Value.text settings.name),
    ("mark", Value.text settings.mark),
    ("filetypes", Value.texts settings.filetypes),
    ("tagFiles", Value.texts (settings.tagFiles.map (·.text)))] ++
  settings.tagger.toList.map (fun tagger => ("tagger", taggerJson tagger)) ++
  [("conflictingSources", Value.texts settings.conflicting),
    ("eviction", evictionJson settings.eviction)]

theorem plain_texts (items : List String) : (Value.texts items).Plain :=
  .list _ (List.forall_mem_map.mpr fun item _ => .text item)

theorem plain_taggerJson (tagger : Tagger) : (taggerJson tagger).Plain := by
  refine .object _ ?_
  simp only [List.forall_mem_cons, List.not_mem_nil, false_imp_iff, implies_true, and_true]
  exact ⟨.text _, plain_texts _⟩

theorem plain_evictionJson (eviction : Eviction) : (evictionJson eviction).Plain := by
  cases eviction with
  | retain =>
    refine .object _ ?_
    simp only [List.forall_mem_cons, List.not_mem_nil, false_imp_iff, implies_true, and_true]
    exact .text _
  | idle refreshes =>
    have small : refreshes.toNat < 2 ^ 64 := lt_trans refreshes.toNat_lt (by decide)
    refine .object _ ?_
    simp only [List.forall_mem_cons, List.not_mem_nil, false_imp_iff, implies_true, and_true]
    exact ⟨.text _, .natural _ small⟩

theorem plain_toJson (settings : Settings) : settings.toJson.Plain := by
  refine .object _ ?_
  simp only [List.forall_mem_append, List.forall_mem_cons, List.forall_mem_map, List.not_mem_nil, false_imp_iff,
    implies_true, and_true]
  exact ⟨⟨⟨.text _, .text _, plain_texts _, plain_texts _⟩, fun tagger _ => plain_taggerJson tagger⟩, plain_texts _,
    plain_evictionJson _⟩

theorem member?_written (settings : Settings) :
    member? "$schema" settings.written = none ∧
    member? "name" settings.written = some (Value.text settings.name) ∧
    member? "mark" settings.written = some (Value.text settings.mark) ∧
    member? "filetypes" settings.written = some (Value.texts settings.filetypes) ∧
    member? "tagFiles" settings.written = some (Value.texts (settings.tagFiles.map (·.text))) ∧
    member? "tagger" settings.written = settings.tagger.map taggerJson ∧
    member? "conflictingSources" settings.written = some (Value.texts settings.conflicting) ∧
    member? "eviction" settings.written = some (evictionJson settings.eviction) := by
  cases tagger : settings.tagger <;> simp [written, tagger, member?, List.lookup]

theorem isTagger_taggerJson {tagger : Tagger} (filled : tagger.program ≠ "") : IsTagger (taggerJson tagger) := by
  refine ⟨_, rfl, by simp, ⟨tagger.program, filled, rfl⟩, fun value given => ⟨tagger.arguments, ?_⟩⟩
  cases given
  rfl

theorem statesTagger_taggerJson (tagger : Tagger) : StatesTagger (taggerJson tagger) tagger :=
  ⟨_, rfl, rfl, rfl⟩

theorem isEviction_evictionJson {eviction : Eviction}
    (count : ∀ refreshes, eviction = .idle refreshes → 1 ≤ refreshes) :
    IsEviction Number.IsCount (evictionJson eviction) := by
  cases eviction with
  | retain => exact ⟨_, rfl, .inl ⟨by simp, rfl⟩⟩
  | idle refreshes =>
    have positive := UInt32.le_iff_toNat_le.mp (count refreshes rfl)
    have counted : Number.IsCount (.whole refreshes.toNat) :=
      ⟨Int.ofNat_le.mpr positive, Int.ofNat_lt.mpr refreshes.toNat_lt⟩
    exact ⟨_, rfl, .inr ⟨by simp, rfl, _, counted, rfl⟩⟩

theorem statesEviction_evictionJson (eviction : Eviction) : StatesEviction (evictionJson eviction) eviction := by
  cases eviction with
  | retain => exact ⟨_, rfl, rfl⟩
  | idle refreshes => exact ⟨_, rfl, rfl, rfl⟩

theorem WellFormed.documented (wellFormed : WellFormed settings) : Documented Number.IsCount settings.written := by
  obtain ⟨schema, name, mark, filetypes, tagFiles, tagger, conflicting, eviction⟩ := member?_written settings
  refine ⟨?_, ?_, ?_, ?_, ?_, ?_, ?_, ?_, ?_⟩
  · simp only [written, List.forall_mem_append, List.forall_mem_cons, List.forall_mem_map]
    simp
  · simp [schema]
  · simpa [name, Value.text] using wellFormed.name
  · simp [mark]
  · simp [filetypes]
  · exact fun value given => ⟨_, Option.some.inj (given.symm.trans tagFiles)⟩
  · rw [tagger]
    rintro _ given
    obtain ⟨tagger, present, rfl⟩ := Option.map_eq_some_iff.mp given
    exact isTagger_taggerJson (wellFormed.tagger tagger present)
  · simp [conflicting]
  · intro value given
    cases eviction.symm.trans given
    exact isEviction_evictionJson wellFormed.eviction

theorem WellFormed.states (wellFormed : WellFormed settings) : States settings.written settings := by
  obtain ⟨-, name, mark, filetypes, tagFiles, tagger, conflicting, eviction⟩ := member?_written settings
  refine ⟨.of_member name rfl, .of_member mark rfl, .of_member filetypes rfl, .of_member tagFiles rfl, ?_,
    .of_member conflicting rfl, .of_member eviction (statesEviction_evictionJson _), wellFormed.base⟩
  cases present : settings.tagger with
  | none =>
    rw [present] at tagger
    exact .of_absent tagger
  | some value =>
    rw [present] at tagger
    exact .of_member tagger ⟨value, rfl, statesTagger_taggerJson value⟩

theorem ofText_of_written (wellFormed : WellFormed settings) (parsed : Json.Loose.read text = some settings.toJson) :
    ofText text = .ok settings := by
  have documented := wellFormed.documented
  obtain ⟨members, read, same, -, states, ok⟩ | ⟨members, number, same, -, given, bad, -⟩ | ⟨undocumented, -⟩ :=
    ofText_cases parsed
  · cases same
    rw [ok, states.unique wellFormed.states]
  · cases same
    exact absurd (documented.refreshes given) bad
  · exact absurd documented.weaken (undocumented _ rfl)

/-- Settings are read back from their JSON, on one line or on several: those that have been read, and all others with a
    name, with a program for a tagger, and with a number of refreshes other than zero. -/
theorem ofText_toJson (settings : Settings) (kept : (∃ text, ofText text = .ok settings) ∨ WellFormed settings) :
    ofText settings.toJson.compact = .ok settings ∧ ofText settings.toJson.pretty = .ok settings := by
  have wellFormed : WellFormed settings := kept.elim (fun ⟨_, read⟩ => wellFormed_of_ofText read) id
  have plain := plain_toJson settings
  exact ⟨ofText_of_written wellFormed (Json.read_compact plain), ofText_of_written wellFormed (Json.read_pretty plain)⟩

theorem ofText_toJson_of_tagger :
    let settings : Settings :=
      { name := "\"\\/\x01\u2028é𝄞", mark := "", tagFiles := [⟨"a b/\n.tags"⟩, ⟨""⟩],
        tagger := some ⟨"ctags", ["--", "\t"]⟩, eviction := .idle 4294967295 }
    ofText settings.toJson.compact = .ok settings ∧ ofText settings.toJson.pretty = .ok settings :=
  ofText_toJson _ (.inr ⟨by decide, by simp, by simp, rfl⟩)

end TagMenu.Settings
