import Mathlib
import TagMenu.Disk.Node
import TagMenu.Proofs.Lookup
import TagMenu.Proofs.Text.Lossy
import TagMenu.Proofs.Text.Split

namespace TagMenu.FileName

variable {name : FileName} {text other : String} {c d : Char} {chars others : List Char}

theorem octets_ofText (text : String) : (ofText text).octets = text.toList.flatMap String.utf8EncodeChar := by
  have encoded : text.toUTF8 = (text.toList.flatMap String.utf8EncodeChar).toByteArray := by
    conv_lhs => rw [← String.ofList_toList (s := text)]
    exact String.toByteArray_ofList
  rw [ofText, encoded, List.toList_data_toByteArray]

theorem length_ofText (text : String) : (ofText text).octets.length = text.utf8ByteSize := by
  show text.toUTF8.data.toList.length = _
  rw [Array.length_toList]
  exact String.size_toByteArray

theorem text?_eq_some : name.text? = some text ↔ name = ofText text := by
  constructor
  · intro read
    simp only [text?, Text.readStrict?, String.fromUTF8?] at read
    split at read
    · cases read
      rfl
    · cases read
  · rintro rfl
    exact Text.readStrict?_toUTF8 text

theorem text?_ofText (text : String) : (ofText text).text? = some text := text?_eq_some.mpr rfl

theorem ofText_inj : ofText text = ofText other ↔ text = other := by
  refine ⟨fun same => ?_, congrArg ofText⟩
  have read := text?_ofText text
  rw [same, text?_ofText] at read
  exact (Option.some.inj read).symm

theorem map_ofText_injective : Function.Injective (List.map ofText) :=
  List.map_injective_iff.mpr fun _ _ => ofText_inj.mp

@[simp] theorem lookup_ofText {α : Type} (first other : String) (value : α) (entries : List (FileName × α)) :
    List.lookup (ofText other) ((ofText first, value) :: entries) =
      if other = first then some value else List.lookup (ofText other) entries := by
  simp only [lookup_cons, ofText_inj]

theorem encode_lt (before : c < d) (rest more : List Nat) :
    (String.utf8EncodeChar c).map UInt8.toNat ++ rest < (String.utf8EncodeChar d).map UInt8.toNat ++ more := by
  have less : c.toNat < d.toNat := before
  have bound := Text.code_valid c
  have boundToo := Text.code_valid d
  have second (n : Nat) : n / 4096 = n / 64 / 64 := by omega
  have third (n : Nat) : n / 262144 = n / 64 / 64 / 64 := by omega
  -- Longer codes begin with larger octets, and codes of one length are compared six bits after six bits.
  simp only [String.utf8EncodeChar, Char.toNat_val, second, third]
  split_ifs <;>
    simp only [List.map_cons, List.map_nil, List.cons_append, List.nil_append, List.cons_lt_cons_iff,
      UInt8.toNat_ofNat'] <;>
    omega

theorem encode_ne_nil (c : Char) : String.utf8EncodeChar c ≠ [] := by
  intro none
  have positive := c.utf8Size_pos
  rw [← String.length_utf8EncodeChar, none] at positive
  exact absurd positive (by decide)

theorem encoding_lt (before : chars < others) :
    (chars.flatMap String.utf8EncodeChar).map UInt8.toNat < (others.flatMap String.utf8EncodeChar).map UInt8.toNat := by
  induction chars generalizing others with
  | nil =>
    cases others with
    | nil => cases before
    | cons d more =>
      obtain ⟨octet, octets, split⟩ := List.exists_cons_of_ne_nil (encode_ne_nil d)
      simp [split]
  | cons c rest ih =>
    cases others with
    | nil => cases before
    | cons d more =>
      simp only [List.flatMap_cons, List.map_append]
      rcases List.cons_lt_cons_iff.mp before with less | ⟨rfl, later⟩
      · exact encode_lt less _ _
      · exact List.append_left_lt (ih later)

theorem key_lt_key_iff {first second : List String} :
    key (first.map ofText) < key (second.map ofText) ↔ first < second := by
  have single {left right : String} (before : left < right) :
      (ofText left).octets.map UInt8.toNat < (ofText right).octets.map UInt8.toNat := by
    rw [octets_ofText, octets_ofText]
    exact encoding_lt (String.lt_iff.mp before)
  have mono : StrictMono fun names : List String => key (names.map ofText) := by
    intro left right before
    simp only [key, List.map_map]
    exact List.map_lt (fun _ _ => single) before
  exact mono.lt_iff_lt

theorem key_injective : Function.Injective key :=
  List.map_injective_iff.mpr fun left right same => by
    cases left
    cases right
    exact congrArg mk (List.map_injective_iff.mpr (fun _ _ => UInt8.toNat_inj.mp) same)

theorem pairwise_sort {ways : List (List FileName)} (once : ways.Nodup) :
    (sort ways).Pairwise fun first second => key first < key second := by
  have sorted : (sort ways).Pairwise fun first second => decide (¬ key second < key first) = true := by
    refine List.pairwise_mergeSort (fun first second third => ?_) (fun first second => ?_) ways
    · simpa using le_trans (a := key first) (b := key second) (c := key third)
    · simpa using le_total (key first) (key second)
  have nodup : (sort ways).Nodup := (List.mergeSort_perm ways _).nodup_iff.mpr once
  exact (sorted.and nodup).imp fun ⟨le, ne⟩ => lt_of_le_of_ne (not_lt.mp (of_decide_eq_true le)) (key_injective.ne ne)

theorem sort_eq {ways sorted : List (List FileName)} (same : ways.Perm sorted)
    (before : sorted.Pairwise fun first second => key first < key second) : sort ways = sorted := by
  have once : sorted.Nodup := before.imp fun less same => less.ne (congrArg key same)
  refine ((List.mergeSort_perm ways _).trans same).eq_of_pairwise (fun _ _ _ _ less more => ?_)
    (pairwise_sort (same.nodup_iff.mpr once)) before
  exact absurd more less.asymm

theorem head?_encode (c : Char) : (String.utf8EncodeChar c).head? = some fullStop ↔ c = '.' := by
  constructor
  · intro first
    obtain ⟨octets, same⟩ := List.head?_eq_some_iff.mp first
    have value : fullStop.toNat = 0x2E := rfl
    rcases Text.encode_cases same with ⟨rfl, -⟩ | ⟨_, -, low, -⟩ | ⟨_, _, -, low, -⟩ | ⟨_, _, _, -, low, -⟩
    · exact Char.toNat_inj.mp (Text.encode_one.mp same).2
    all_goals omega
  · rintro rfl
    rfl

theorem head?_ofText : (ofText text).octets.head? = some fullStop ↔ text.toList.head? = some '.' := by
  rw [octets_ofText]
  cases text.toList with
  | nil => simp
  | cons c rest => simp [List.head?_append_of_ne_nil _ (encode_ne_nil c), head?_encode]

theorem extension?_eq_some {extension : FileName} :
    name.extension? = some extension ↔ fullStop ∉ extension.octets ∧
      ∃ stem, stem ≠ [] ∧ name.octets = stem ++ fullStop :: extension.octets := by
  obtain ⟨after⟩ := extension
  rw [extension?, ← Text.cutExtension_eq_some, Option.map_eq_some_iff]
  simp

end TagMenu.FileName

namespace TagMenu.Disk.Node

@[simp] theorem get?_nil (node : Node) : node.get? [] = some node := rfl

@[simp] theorem get?_cons (entries : List (FileName × Node)) (modified : Timestamp) (name : String) (rest : Place) :
    (directory entries modified).get? (name :: rest) = (entries.lookup (.ofText name)).bind (·.get? rest) := rfl

end TagMenu.Disk.Node
