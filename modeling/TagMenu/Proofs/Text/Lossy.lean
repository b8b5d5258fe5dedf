import Mathlib
import TagMenu.Proofs.Text.Underway

namespace TagMenu.Text

variable {octet : UInt8} {octets part other rest more read : List UInt8} {c : Char} {chars : List Char}
  {character : Partial}

/-- The octets at the start of others that one replacement stands for: as many as a character may begin with, or one if
    there are none. -/
structure MaximalPart (part rest : List UInt8) : Prop where
  illFormed : ∀ c, ¬ String.utf8EncodeChar c <+: part ++ rest
  nonempty : part ≠ []
  short : part.length = 1 ∨ Begins part
  maximal : ∀ longer, longer <+: part ++ rest → part.length < longer.length → ¬ Begins longer

/-- Octets as text. What is no character is replaced, part by part. -/
inductive Replaced : List UInt8 → List Char → Prop
  | nothing : Replaced [] []
  | character (c : Char) {rest : List UInt8} {chars : List Char} (tail : Replaced rest chars) :
      Replaced (String.utf8EncodeChar c ++ rest) (c :: chars)
  | part {part rest : List UInt8} {chars : List Char} (maximal : MaximalPart part rest) (tail : Replaced rest chars) :
      Replaced (part ++ rest) (replacement :: chars)

theorem maximalPart_of_stop (begun : part.length = 1 ∨ Begins part) (nonempty : part ≠ [])
    (complete : ∀ c, ¬ String.utf8EncodeChar c <+: part) (stop : ∀ octet ∈ rest.head?, ¬ Begins (part ++ [octet])) :
    MaximalPart part rest := by
  have longer : ∀ octets, octets <+: part ++ rest → part.length < octets.length → ¬ Begins octets := by
    intro octets front long begins
    cases rest with
    | nil =>
      have := front.length_le
      simp at this
      omega
    | cons octet rest =>
      have next : part ++ [octet] <+: part ++ octet :: rest := ⟨rest, by simp⟩
      have within := List.prefix_of_prefix_length_le next front (by simpa using long)
      exact stop octet rfl (begins.of_prefix within)
  refine ⟨fun c encoded => ?_, nonempty, begun, longer⟩
  by_cases long : part.length < (String.utf8EncodeChar c).length
  · exact longer _ encoded long ⟨c, List.prefix_rfl⟩
  · exact complete c (List.prefix_of_prefix_length_le encoded (List.prefix_append ..) (by omega))

theorem encode_unique {other : Char} (first : String.utf8EncodeChar c <+: octets)
    (second : String.utf8EncodeChar other <+: octets) : c = other := by
  obtain ⟨rest, rfl⟩ := first
  obtain ⟨more, same⟩ := second
  have decoded := ByteArray.utf8DecodeChar?_utf8EncodeChar_append (b := rest.toByteArray) (c := c)
  rw [← List.toByteArray_append, ← same, List.toByteArray_append,
    ByteArray.utf8DecodeChar?_utf8EncodeChar_append] at decoded
  exact (Option.some.inj decoded).symm

theorem Underway.not_prefix (underway : Underway read character) (c : Char) : ¬ String.utf8EncodeChar c <+: read := by
  intro encoded
  obtain ⟨other, front⟩ := underway.begins
  obtain rfl := encode_unique (encoded.trans front) List.prefix_rfl
  exact underway.not_complete c (encoded.eq_of_length_le front.length_le)

theorem Underway.maximalPart (underway : Underway read character)
    (stop : ∀ octet ∈ rest.head?, ¬ (character.low ≤ octet.toNat ∧ octet.toNat ≤ character.high)) :
    MaximalPart read rest :=
  maximalPart_of_stop (.inr underway.begins) underway.started underway.not_prefix fun octet next =>
    underway.gives_up (stop octet next)

theorem maximalPart_of_stray (stray : ¬ Begins [octet]) : MaximalPart [octet] rest := by
  refine maximalPart_of_stop (.inl rfl) (by simp) (fun c encoded => ?_) fun next _ begins => ?_
  · have whole : String.utf8EncodeChar c = [octet] :=
      encoded.eq_of_length_le (by simpa using Nat.succ_le_of_lt c.utf8Size_pos)
    exact stray ⟨c, by rw [whole]⟩
  · exact stray (begins.of_prefix (List.prefix_append ..))

theorem replaced_readOctets (octets : List UInt8) : Replaced octets (readOctets none octets) ∧
    ∀ read character, Underway read character → Replaced (read ++ octets) (readOctets (some character) octets) := by
  induction octets with
  | nil =>
    refine ⟨.nothing, fun read character underway => ?_⟩
    exact .part (underway.maximalPart (by simp)) .nothing
  | cons octet rest ih =>
    have afresh : Replaced (octet :: rest) (readOctets none (octet :: rest)) := by
      rw [readOctets]
      show Replaced _ ((leadOctet octet.toNat).1 ++ readOctets (leadOctet octet.toNat).2 rest)
      have led := led_leadOctet octet
      generalize leadOctet octet.toNat = result at led ⊢
      cases led with
      | @complete c same => simpa [same] using Replaced.character c ih.1
      | begun underway => exact ih.2 _ _ underway
      | refused stray => exact .part (maximalPart_of_stray stray) ih.1
    refine ⟨afresh, fun read character underway => ?_⟩
    by_cases inside : character.low ≤ octet.toNat ∧ octet.toNat ≤ character.high
    · rw [readOctets]
      rcases underway.goes_on inside with ⟨c, step, same⟩ | ⟨next, step, further⟩
      · simpa [step, same] using Replaced.character c ih.1
      · simpa [step] using ih.2 _ _ further
    · have given : readOctets (some character) (octet :: rest) = replacement :: readOctets none (octet :: rest) := by
        simp [readOctets, nextOctet, inside]
      rw [given]
      exact .part (underway.maximalPart (by simpa using inside)) afresh

theorem Replaced.cases (replaced : Replaced octets chars) : octets = [] ∧ chars = [] ∨
    (∃ c rest tail, octets = String.utf8EncodeChar c ++ rest ∧ chars = c :: tail ∧ Replaced rest tail) ∨
    ∃ part rest tail, octets = part ++ rest ∧ chars = replacement :: tail ∧ MaximalPart part rest ∧
      Replaced rest tail := by
  cases replaced with
  | nothing => exact .inl ⟨rfl, rfl⟩
  | character c tail => exact .inr (.inl ⟨c, _, _, rfl, rfl, tail⟩)
  | part maximal tail => exact .inr (.inr ⟨_, _, _, rfl, rfl, maximal, tail⟩)

theorem MaximalPart.length_le (left : MaximalPart part rest) (right : MaximalPart other more)
    (same : part ++ rest = other ++ more) : other.length ≤ part.length := by
  by_contra long
  have positive := List.length_pos_iff.mpr left.nonempty
  have begins : Begins other := right.short.resolve_left (by omega)
  exact left.maximal other (by rw [same]; exact List.prefix_append ..) (by omega) begins

theorem Replaced.unique {others : List Char} (left : Replaced octets chars) (right : Replaced octets others) :
    chars = others := by
  induction left generalizing others with
  | nothing =>
    rcases right.cases with ⟨-, rfl⟩ | ⟨c, rest, tail, same, -⟩ | ⟨part, rest, tail, same, -, maximal, -⟩
    · rfl
    · exact absurd (List.append_eq_nil_iff.mp same.symm).1 String.utf8EncodeChar_ne_nil
    · exact absurd (List.append_eq_nil_iff.mp same.symm).1 maximal.nonempty
  | character c tail ih =>
    rcases right.cases with
      ⟨same, -⟩ | ⟨other, rest, tail, same, rfl, further⟩ | ⟨part, rest, tail, same, -, maximal, -⟩
    · exact absurd (List.append_eq_nil_iff.mp same).1 String.utf8EncodeChar_ne_nil
    · obtain rfl := encode_unique (List.prefix_append ..) (same ▸ List.prefix_append ..)
      rw [List.append_cancel_left same] at ih
      rw [ih further]
    · exact absurd (same ▸ List.prefix_append ..) (maximal.illFormed c)
  | part maximal tail ih =>
    rcases right.cases with ⟨same, -⟩ | ⟨c, rest, tail, same, -⟩ | ⟨other, more, tail, same, rfl, again, further⟩
    · exact absurd (List.append_eq_nil_iff.mp same).1 maximal.nonempty
    · exact absurd (same ▸ List.prefix_append ..) (maximal.illFormed c)
    · have lengths := Nat.le_antisymm (again.length_le maximal same.symm) (maximal.length_le again same)
      obtain ⟨rfl, rfl⟩ := List.append_inj same lengths
      rw [ih further]

theorem replaced_iff : Replaced octets chars ↔ readOctets none octets = chars :=
  ⟨fun replaced => (replaced_readOctets octets).1.unique replaced, fun same => same ▸ (replaced_readOctets octets).1⟩

theorem encode_feed (feed : 10 ∈ String.utf8EncodeChar c) : String.utf8EncodeChar c = [10] := by
  have bound := code_valid c
  simp only [String.utf8EncodeChar, Char.toNat_val] at feed ⊢
  split at feed
  · rename_i low
    rw [if_pos low]
    simpa [eq_comm] using feed
  · split at feed
    · simp [← UInt8.toNat_inj] at feed
      omega
    · split at feed
      · simp [← UInt8.toNat_inj] at feed
        omega
      · simp [← UInt8.toNat_inj] at feed
        omega

theorem feed_alone (feed : 10 ∈ octets) (begins : Begins octets) : octets.length ≤ 1 := by
  obtain ⟨c, front⟩ := begins
  have whole := encode_feed (front.subset feed)
  rw [whole] at front
  exact front.length_le

theorem Replaced.append {others : List Char} (left : Replaced octets chars) (right : Replaced other others)
    (apart : ∀ front back, front ≠ [] → back ≠ [] → front <:+ octets → back <+: other → ¬ Begins (front ++ back)) :
    Replaced (octets ++ other) (chars ++ others) := by
  induction left with
  | nothing => exact right
  | character c tail ih =>
    rw [List.append_assoc]
    exact .character c (ih fun front back first second ends => apart front back first second
      (ends.trans (List.suffix_append ..)))
  | @part part rest chars maximal tail ih =>
    have own : ∀ longer, longer <+: part ++ (rest ++ other) → Begins longer → longer <+: part ++ rest := by
      intro longer front begins
      rw [← List.append_assoc] at front
      rcases List.prefix_or_prefix_of_prefix front (List.prefix_append ..) with short | ⟨back, rfl⟩
      · exact short
      · rcases List.eq_nil_or_concat back with rfl | nonempty
        · rw [List.append_nil]
        · refine absurd begins (apart _ back ?_ ?_ List.suffix_rfl ((List.prefix_append_right_inj _).mp front))
          · exact List.append_ne_nil_of_left_ne_nil maximal.nonempty _
          · obtain ⟨_, _, rfl⟩ := nonempty
            simp
    rw [List.append_assoc]
    refine .part ⟨fun c encoded => ?_, maximal.nonempty, maximal.short, fun longer front long begins => ?_⟩ (ih ?_)
    · exact maximal.illFormed c (own _ encoded ⟨c, List.prefix_rfl⟩)
    · exact maximal.maximal longer (own longer front begins) long begins
    · exact fun front back first second ends => apart front back first second (ends.trans (List.suffix_append ..))

theorem readOctets_append (cut : octets = [] ∨ octets.getLast? = some 10 ∨ other.head? = some 10) :
    readOctets none (octets ++ other) = readOctets none octets ++ readOctets none other := by
  refine replaced_iff.mp ((replaced_iff.mpr rfl).append (replaced_iff.mpr rfl) ?_)
  intro front back first second ends starts begins
  have positive := List.length_pos_iff.mpr first
  have further := List.length_pos_iff.mpr second
  have feed : 10 ∈ front ++ back := by
    rcases cut with rfl | last | next
    · exact absurd (List.suffix_nil.mp ends) first
    · obtain ⟨before, rfl⟩ := ends
      rw [List.getLast?_append_of_ne_nil _ first] at last
      exact List.mem_append_left _ (List.mem_of_getLast? last)
    · obtain ⟨after, rfl⟩ := starts
      rw [List.head?_append_of_ne_nil _ second] at next
      exact List.mem_append_right _ (List.mem_of_head? next)
  have short := feed_alone feed begins
  rw [List.length_append] at short
  omega

theorem readOctets_feed : readOctets none [10] = ['\n'] := by decide

theorem not_feed (free : 10 ∉ octets) : '\n' ∉ readOctets none octets := by
  have replaced := replaced_iff.mpr (rfl : readOctets none octets = _)
  generalize readOctets none octets = chars at replaced
  induction replaced with
  | nothing => exact List.not_mem_nil
  | character c tail ih =>
    rw [List.mem_append, not_or] at free
    refine List.not_mem_cons_of_ne_of_not_mem ?_ (ih free.2)
    rintro rfl
    exact free.1 (by decide)
  | part maximal tail ih =>
    rw [List.mem_append, not_or] at free
    exact List.not_mem_cons_of_ne_of_not_mem (by decide) (ih free.2)

theorem readStrict?_toUTF8 (text : String) : readStrict? text.toUTF8 = some text := dif_pos text.isValidUTF8

end TagMenu.Text
