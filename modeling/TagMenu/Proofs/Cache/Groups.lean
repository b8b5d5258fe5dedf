import Mathlib
import TagMenu.Cache.Index

namespace TagMenu

variable {α : Type} {candidates others : List Candidate} {candidate : Candidate} {index : Index} {word : String}
  {words : List String}

section Distinct

variable [BEq α] [LawfulBEq α]

theorem nodup_eraseDups (items : List α) : items.eraseDups.Nodup := by
  cases items with
  | nil => exact List.nodup_nil
  | cons item rest =>
    rw [List.eraseDups_cons, List.nodup_cons, List.mem_eraseDups]
    exact ⟨by simp, nodup_eraseDups _⟩
termination_by items.length
decreasing_by exact Nat.lt_succ_of_le (List.length_filter_le _ _)

theorem eraseDups_filter (keep : α → Bool) (items : List α) :
    (items.filter keep).eraseDups = items.eraseDups.filter keep := by
  cases items with
  | nil => rfl
  | cons item rest =>
    have ih := eraseDups_filter keep (rest.filter fun other => !other == item)
    rw [List.eraseDups_cons]
    by_cases kept : keep item
    · rw [List.filter_cons_of_pos kept, List.filter_cons_of_pos kept, List.eraseDups_cons, ← ih, List.filter_comm]
    · -- What is left out of the rest has been left out of it before.
      have same : (rest.filter fun other => !other == item).filter keep = rest.filter keep := by
        rw [List.filter_filter]
        refine List.filter_congr fun other _ => ?_
        by_cases equal : other = item <;> simp [equal, kept]
      rw [List.filter_cons_of_neg kept, List.filter_cons_of_neg kept, ← ih, same]
termination_by items.length
decreasing_by exact Nat.lt_succ_of_le (List.length_filter_le _ _)

theorem eraseDups_concat (items : List α) (item : α) :
    (items ++ [item]).eraseDups = if item ∈ items then items.eraseDups else items.eraseDups ++ [item] := by
  rw [List.eraseDups_append]
  by_cases known : item ∈ items <;> simp [known, List.removeAll, List.eraseDups_cons]

theorem eraseDups_same {item : α} {front back : List α} (same : ∀ other ∈ front, other = item) (some : front ≠ [])
    (apart : item ∉ back) : (front ++ back).eraseDups = item :: back.eraseDups := by
  cases front with
  | nil => cases some rfl
  | cons first more =>
    obtain ⟨rfl, same⟩ := List.forall_mem_cons.mp same
    have none : more.filter (!· == first) = [] := List.filter_eq_nil_iff.mpr fun other member => by
      simp [same other member]
    have all : back.filter (!· == first) = back := List.filter_eq_self.mpr fun other member => by
      simpa using ne_of_mem_of_not_mem member apart
    rw [List.cons_append, List.eraseDups_cons, List.filter_append, none, all, List.nil_append]

end Distinct

namespace Index

def group (candidates : List Candidate) (word : String) : List Candidate := candidates.filter (·.word = word)

def distinct (candidates : List Candidate) : List String := (candidates.map (·.word)).eraseDups

structure Of (index : Index) (candidates : List Candidate) : Prop where
  words : index.words = distinct candidates
  known : ∀ word, index.groups.contains word = true ↔ word ∈ candidates.map (·.word)
  get : ∀ word, index.get word = group candidates word

theorem Of.insert (holds : index.Of candidates) (candidate : Candidate) :
    (index.insert candidate).Of (candidates ++ [candidate]) := by
  refine ⟨?_, fun word => ?_, fun word => ?_⟩
  · have same := holds.words
    rw [distinct, List.map_append, List.map_singleton, eraseDups_concat, ← distinct, ← same]
    by_cases known : candidate.word ∈ candidates.map (·.word)
    · rw [if_pos known, Index.words, Index.insert, if_pos ((holds.known _).mpr known), Index.words]
    · rw [if_neg known, Index.words, Index.insert, if_neg (mt (holds.known _).mp known), List.reverse_cons, Index.words]
  · rw [Index.insert, Std.HashMap.contains_insert, Bool.or_eq_true, holds.known, beq_iff_eq, List.map_append,
      List.mem_append, List.map_singleton, List.mem_singleton, or_comm, eq_comm]
  · have before := holds.get word
    rw [Index.get, Std.HashMap.get?_eq_getElem?] at before
    rw [Index.get, Index.insert, Std.HashMap.get?_eq_getElem?, Std.HashMap.getElem?_insert, group, List.filter_append]
    by_cases same : candidate.word = word
    · subst same
      simp [before, group]
    · simp [before, group, same]

theorem of_candidates (candidates : List Candidate) : (ofCandidates candidates).Of candidates := by
  induction candidates using List.reverseRecOn with
  | nil => exact ⟨rfl, by simp [ofCandidates], fun word => by simp [ofCandidates, get, group]⟩
  | append_singleton candidates candidate ih =>
    rw [ofCandidates, List.foldl_append]
    exact ih.insert candidate

theorem words_ofCandidates (candidates : List Candidate) : (ofCandidates candidates).words = distinct candidates :=
  (of_candidates candidates).words

theorem get_ofCandidates (candidates : List Candidate) (word : String) :
    (ofCandidates candidates).get word = group candidates word :=
  (of_candidates candidates).get word

def grouped (candidates : List Candidate) : List Candidate := (distinct candidates).flatMap (group candidates)

theorem word_of_mem_group (member : candidate ∈ group candidates word) : candidate.word = word := by
  simpa using List.of_mem_filter member

def contents (index : Index) : List Candidate := index.words.flatMap index.get

theorem contents_ofCandidates (candidates : List Candidate) :
    (ofCandidates candidates).contents = grouped candidates := by
  rw [contents, words_ofCandidates, funext (get_ofCandidates candidates), grouped]

theorem perm_flatMap_group (once : words.Nodup) (candidates : List Candidate) :
    (words.flatMap (group candidates)).Perm (candidates.filter (·.word ∈ words)) := by
  induction words with
  | nil => simp
  | cons word rest ih =>
    obtain ⟨fresh, once⟩ := List.nodup_cons.mp once
    have chosen : (candidates.filter (·.word ∈ word :: rest)).filter (·.word = word) = group candidates word := by
      rw [List.filter_filter, group]
      exact List.filter_congr fun candidate _ => by by_cases same : candidate.word = word <;> simp [same]
    have others : (candidates.filter (·.word ∈ word :: rest)).filter
          (fun candidate => !decide (candidate.word = word)) =
        candidates.filter (·.word ∈ rest) := by
      rw [List.filter_filter]
      refine List.filter_congr fun candidate _ => ?_
      by_cases same : candidate.word = word
      · simp [same, fresh]
      · simp [same]
    rw [List.flatMap_cons, ← chosen]
    exact ((ih once).append_left _).trans (others ▸ List.filter_append_perm _ _)

theorem flatMap_group_split (once : words.Nodup) (known : word ∈ words) (candidates : List Candidate) :
    ∃ before after, words.flatMap (group candidates) = before ++ group candidates word ++ after ∧
      ∀ candidate ∈ before ++ after, candidate.word ≠ word := by
  obtain ⟨first, last, rfl⟩ := List.append_of_mem known
  refine ⟨first.flatMap (group candidates), last.flatMap (group candidates), by simp, ?_⟩
  intro candidate member same
  rw [← List.flatMap_append, List.mem_flatMap] at member
  obtain ⟨other, listed, member⟩ := member
  rw [List.nodup_middle, List.nodup_cons] at once
  exact once.1 (by rwa [← same, word_of_mem_group member])

theorem matching_ofCandidates (candidates : List Candidate) (keyword : Keyword) :
    (ofCandidates candidates).matching keyword = grouped (candidates.filter (keyword.accepts ·.word)) := by
  have accepted : distinct (candidates.filter (keyword.accepts ·.word)) =
      (distinct candidates).filter keyword.accepts := by
    rw [distinct, distinct, ← eraseDups_filter, List.filter_map]
    rfl
  rw [matching, words_ofCandidates, grouped, accepted]
  refine List.flatMap_congr fun word member => ?_
  rw [get_ofCandidates, group, group, List.filter_filter]
  refine List.filter_congr fun candidate _ => ?_
  by_cases same : candidate.word = word
  · simp [same, (List.mem_filter.mp member).2]
  · simp [same]

theorem mem_distinct : word ∈ distinct candidates ↔ word ∈ candidates.map (·.word) := List.mem_eraseDups

theorem nodup_distinct (candidates : List Candidate) : (distinct candidates).Nodup := nodup_eraseDups _

theorem perm_grouped (candidates : List Candidate) : (grouped candidates).Perm candidates := by
  have whole : candidates.filter (·.word ∈ distinct candidates) = candidates := by
    refine List.filter_eq_self.mpr fun candidate member => ?_
    exact decide_eq_true (mem_distinct.mpr (List.mem_map_of_mem member))
  have perm := perm_flatMap_group (nodup_distinct candidates) candidates
  rwa [whole] at perm

theorem group_eq_nil (unknown : word ∉ candidates.map (·.word)) : group candidates word = [] := by
  refine List.filter_eq_nil_iff.mpr fun candidate member same => unknown ?_
  exact List.mem_map.mpr ⟨candidate, member, of_decide_eq_true same⟩

theorem distinct_flatMap_group (once : words.Nodup) (known : ∀ word ∈ words, word ∈ candidates.map (·.word)) :
    distinct (words.flatMap (group candidates)) = words := by
  induction words with
  | nil => rfl
  | cons word rest ih =>
    obtain ⟨fresh, once⟩ := List.nodup_cons.mp once
    rw [List.forall_mem_cons] at known
    obtain ⟨⟨candidate, member, same⟩, known⟩ := known.imp_left List.mem_map.mp
    have ofRest := ih once known
    rw [distinct] at ofRest ⊢
    rw [List.flatMap_cons, List.map_append, eraseDups_same ?_ ?_ ?_, ofRest]
    · rw [List.forall_mem_map]
      exact fun other member => word_of_mem_group member
    · rw [ne_eq, List.map_eq_nil_iff]
      exact List.ne_nil_of_mem (List.mem_filter.mpr ⟨member, decide_eq_true same⟩)
    · rwa [← mem_distinct, distinct, ofRest]

theorem distinct_grouped (candidates : List Candidate) : distinct (grouped candidates) = distinct candidates :=
  distinct_flatMap_group (nodup_distinct candidates) fun _ => mem_distinct.mp

end Index

/-- The candidates of a query are those whose words are accepted, each as often as it is in the cache, word by word in
    the order in which the words are first seen, and those of one word together and in their order. -/
theorem Snapshot.gather_by_word (snapshot : Snapshot) (keyword : Keyword) :
    (snapshot.gather keyword).Perm (snapshot.candidates.filter (keyword.accepts ·.word)) ∧
    (∀ word, keyword.accepts word = true → ∃ before after,
      snapshot.gather keyword = before ++ snapshot.candidates.filter (·.word = word) ++ after ∧
        ∀ candidate ∈ before ++ after, candidate.word ≠ word) ∧
    ((snapshot.gather keyword).map (·.word)).eraseDups =
      (snapshot.candidates.map (·.word)).eraseDups.filter keyword.accepts ∧
    snapshot.gather keyword = (Index.ofCandidates (snapshot.candidates.filter (keyword.accepts ·.word))).contents ∧
    ∀ candidates : List Candidate,
      let index := Index.ofCandidates candidates
      index.words.Nodup ∧ index.words = (candidates.map (·.word)).eraseDups ∧
      (∀ word, index.get word = candidates.filter (·.word = word)) ∧
      (∀ word, word ∉ candidates.map (·.word) → index.get word = []) ∧
      (index.words.map fun word => (index.get word).length).sum = candidates.length ∧
      index.size = (candidates.map (·.word)).toFinset.card := by
  have gathered : snapshot.gather keyword = Index.grouped (snapshot.candidates.filter (keyword.accepts ·.word)) :=
    Index.matching_ofCandidates _ keyword
  refine ⟨?_, fun word accepted => ?_, ?_, ?_, fun candidates =>
    ⟨?_, ?_, fun word => ?_, fun word unknown => ?_, ?_, ?_⟩⟩
  · rw [gathered]
    exact Index.perm_grouped _
  · by_cases known : word ∈ (Index.ofCandidates snapshot.candidates).words
    · have listed := List.mem_filter.mpr ⟨known, accepted⟩
      have once := (Index.words_ofCandidates snapshot.candidates ▸ Index.nodup_distinct _).filter keyword.accepts
      rw [Snapshot.gather, Index.matching, funext (Index.get_ofCandidates snapshot.candidates)]
      exact Index.flatMap_group_split once listed snapshot.candidates
    · rw [Index.words_ofCandidates, Index.mem_distinct] at known
      have none : snapshot.candidates.filter (·.word = word) = [] := Index.group_eq_nil known
      refine ⟨snapshot.gather keyword, [], by rw [none, List.append_nil, List.append_nil], ?_⟩
      rintro candidate member rfl
      rw [List.append_nil, gathered] at member
      have kept := (Index.perm_grouped _).subset member
      exact known (List.mem_map_of_mem (List.mem_of_mem_filter kept))
  · rw [gathered, ← eraseDups_filter, List.filter_map]
    exact Index.distinct_grouped _
  · rw [gathered, Index.contents_ofCandidates]
  · rw [Index.words_ofCandidates]
    exact Index.nodup_distinct candidates
  · exact Index.words_ofCandidates candidates
  · exact Index.get_ofCandidates candidates word
  · rw [Index.get_ofCandidates, Index.group_eq_nil unknown]
  · rw [← List.length_flatMap]
    exact (Index.contents_ofCandidates candidates ▸ Index.perm_grouped candidates).length_eq
  · have same : (candidates.map (·.word)).toFinset = (Index.distinct candidates).toFinset := by
      ext word
      rw [List.mem_toFinset, List.mem_toFinset, Index.mem_distinct]
    rw [same, List.toFinset_card_of_nodup (Index.nodup_distinct candidates), ← Index.words_ofCandidates, Index.words,
      List.length_reverse, Index.size]

end TagMenu
