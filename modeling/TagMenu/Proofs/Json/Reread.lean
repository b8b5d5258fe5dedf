import Mathlib
import TagMenu.Proofs.Json.Built
import TagMenu.Proofs.Json.Printed

namespace TagMenu.Json

open Loose (lexer dialect)

variable {value : Value} {depth : Nat} {Item : Type}

/-- Made of texts and of natural numbers of 64 bits. -/
inductive Value.Plain : Value → Prop
  | text (content : String) : Plain (Value.text content)
  | natural (n : Nat) (small : n < 2 ^ 64) : Plain (Value.natural n)
  | list (items : List Value) (each : ∀ item ∈ items, Plain item) : Plain (.list items)
  | object (members : List (String × Value)) (each : ∀ member ∈ members, Plain member.2) : Plain (.object members)

mutual

def Value.tokens : Value → List Token
  | .leaf (.text content) => [.text (some content)]
  | .leaf (.number number) => [.numeral number.text]
  | .leaf scalar => [.word (scalarText scalar)]
  | .list items => .openList :: [.comma].intercalate (itemTokens items) ++ [.closeList]
  | .object members => .openObject :: [.comma].intercalate (memberTokens members) ++ [.closeObject]

def Value.itemTokens : List Value → List (List Token)
  | [] => []
  | item :: rest => tokens item :: itemTokens rest

def Value.memberTokens : List (String × Value) → List (List Token)
  | [] => []
  | (name, value) :: rest => (.text (some name) :: .colon :: tokens value) :: memberTokens rest

end

namespace Value

theorem itemTokens_eq (items : List Value) : itemTokens items = items.map tokens := by
  induction items with
  | nil => rfl
  | cons item rest ih => rw [itemTokens, ih, List.map_cons]

theorem memberTokens_eq (members : List (String × Value)) :
    memberTokens members = members.map fun member => .text (some member.1) :: .colon :: tokens member.2 := by
  induction members with
  | nil => rfl
  | cons member rest ih => rw [memberTokens, ih, List.map_cons]

theorem compactItems_eq (items : List Value) : compactItems items = items.map compact := by
  induction items with
  | nil => rfl
  | cons item rest ih => rw [compactItems, ih, List.map_cons]

theorem compactMembers_eq (members : List (String × Value)) :
    compactMembers members = members.map fun member => quoteText member.1 ++ ":" ++ compact member.2 := by
  induction members with
  | nil => rfl
  | cons member rest ih => rw [compactMembers, ih, List.map_cons]

end Value

theorem Loose.proper : dialect.Proper := by simp [Dialect.Proper, dialect, leaf?, name?]

theorem Builder.builds_tokens (plain : value.Plain) : Builds dialect value.tokens value := by
  induction plain with
  | text content => exact builds_leaf Loose.proper rfl
  | natural n small =>
    have number : Number.ofNumeral? (Number.whole n).text = some (.whole n) := by
      rw [← ofNumeral?_toDigits small, ← Nat.repr_eq_ofList_toDigits]
      rfl
    exact builds_leaf Loose.proper (by simp [dialect, Loose.leaf?, Loose.scalarOfNumeral, number])
  | list items each ih =>
    rw [Value.tokens, Value.itemTokens_eq]
    simpa using builds_list Loose.proper items Value.tokens id ih
  | object members each ih =>
    rw [Value.tokens, Value.memberTokens_eq]
    simpa using builds_object Loose.proper members (fun member => .text (some member.1)) Prod.fst
      (fun member => Value.tokens member.2) Prod.snd (fun _ _ => rfl) ih

variable {shown : String} {tokens : List Token}

theorem readsWhole_member {name separator : String} (printed : ReadsWhole lexer shown.toList tokens)
    (colon : IsMark ':' separator.toList) :
    ReadsWhole lexer (Value.quoteText name ++ separator ++ shown).toList (.text (some name) :: .colon :: tokens) := by
  rw [String.toList_append, String.toList_append]
  exact .member Loose.regular (readsAs_quoteText name) colon printed

structure Encloses (start finish : String) (opener closer : Token) : Prop where
  opens : ∃ mark, start.toList = [mark] ∧ Token.punctuation? mark = some opener
  closes : ∃ mark ∈ [',', ']', '\x7d'], finish.toList = [mark] ∧ Token.punctuation? mark = some closer

theorem encloses_list : Encloses "[" "]" .openList .closeList where
  opens := ⟨'[', rfl, rfl⟩
  closes := ⟨']', by simp, rfl, rfl⟩

theorem encloses_object : Encloses "\x7b" "\x7d" .openObject .closeObject where
  opens := ⟨'\x7b', rfl, rfl⟩
  closes := ⟨'\x7d', by simp, rfl, rfl⟩

variable {start finish : String} {opener closer : Token} {print : Item → String} {tokensOf : Item → List Token}
  {items : List Item}

theorem Encloses.readsWhole_line (brackets : Encloses start finish opener closer)
    (each : ∀ item ∈ items, ReadsWhole lexer (print item).toList (tokensOf item)) :
    ReadsWhole lexer (start ++ ",".intercalate (items.map print) ++ finish).toList
      (opener :: [.comma].intercalate (items.map tokensOf) ++ [closer]) := by
  obtain ⟨⟨first, opens, opened⟩, last, bracket, closes, closed⟩ := brackets
  have separated := separated_intercalate (items.map print)
  rw [List.map_map] at separated
  rw [String.toList_append, String.toList_append, opens, closes]
  exact .enclosed Loose.regular items (String.toList ∘ print) tokensOf each (isMark_self first) separated
    (isMark_self last) opened closed bracket

theorem Encloses.readsWhole_block (brackets : Encloses start finish opener closer)
    (each : ∀ item ∈ items, ReadsWhole lexer (print item).toList (tokensOf item)) :
    ReadsWhole lexer (Value.block start finish depth (items.map print)).toList
      (opener :: [.comma].intercalate (items.map tokensOf) ++ [closer]) := by
  obtain ⟨⟨first, opens, opened⟩, last, bracket, closes, closed⟩ := brackets
  obtain ⟨before, inside, after, begins, separated, ends, whole⟩ := block_form depth opens closes (items.map print)
  rw [List.map_map] at separated
  rw [whole]
  exact .enclosed Loose.regular items (String.toList ∘ print) tokensOf each begins separated ends opened closed bracket

theorem readsWhole_compact (plain : value.Plain) : ReadsWhole lexer value.compact.toList value.tokens := by
  induction plain with
  | text content => exact fun rest _ => readsAs_quoteText content rest
  | natural n small => exact readsWhole_natural n
  | list items each ih =>
    rw [Value.compact, Value.tokens, Value.compactItems_eq, Value.itemTokens_eq]
    exact encloses_list.readsWhole_line ih
  | object members each ih =>
    have colon : IsMark ':' ":".toList := isMark_self ':'
    rw [Value.compact, Value.tokens, Value.compactMembers_eq, Value.memberTokens_eq]
    exact encloses_object.readsWhole_line fun member inside => readsWhole_member (ih member inside) colon

theorem readsWhole_indented (plain : value.Plain) : ReadsWhole lexer (value.indented depth).toList value.tokens := by
  induction plain generalizing depth with
  | text content => exact fun rest _ => readsAs_quoteText content rest
  | natural n small => exact readsWhole_natural n
  | list items each ih =>
    rw [Value.indented, Value.tokens, Value.indentedItems_eq, Value.itemTokens_eq]
    exact encloses_list.readsWhole_block fun item inside => ih item inside
  | object members each ih =>
    have colon : IsMark ':' ": ".toList := (isMark_self ':').append (show Blanks [' '] by simp [Blanks])
    rw [Value.indented, Value.tokens, Value.indentedMembers_eq, Value.memberTokens_eq]
    exact encloses_object.readsWhole_block fun member inside => readsWhole_member (ih member inside) colon

theorem tokens_ne_nil (value : Value) : value.tokens ≠ [] := by
  rcases value with (_ | _ | _ | _) | _ | _ <;> simp [Value.tokens]

theorem read_of_readsWhole (plain : value.Plain) (printed : ReadsWhole lexer shown.toList value.tokens)
    (after : List Char) (blank : Blanks after) (ends : EndsNumeral after) :
    Loose.read (shown ++ String.ofList after) = some value := by
  have tokens : lexer.run (shown ++ String.ofList after).toList = some value.tokens := by
    have whole : ReadsAs lexer (shown.toList ++ after) (value.tokens ++ []) [] :=
      ReadsAs.append (by simpa using printed after ends) (Loose.regular.readsAs_blanks blank [])
    rw [String.toList_append, String.toList_ofList]
    simpa [ReadsAs, Lexer.run] using whole
  rw [Loose.read, tokens]
  simp [tokens_ne_nil, Builder.build_of_builds (Builder.builds_tokens plain)]

theorem read_compact (plain : value.Plain) : Loose.read value.compact = some value := by
  simpa using read_of_readsWhole plain (readsWhole_compact plain) [] nofun endsNumeral_nil

theorem read_pretty (plain : value.Plain) : Loose.read value.pretty = some value := by
  simpa [Value.pretty] using read_of_readsWhole plain (readsWhole_indented plain) [] nofun endsNumeral_nil

theorem read_pretty_newline (plain : value.Plain) : Loose.read (value.pretty ++ "\n") = some value :=
  read_of_readsWhole plain (readsWhole_indented plain) ['\n'] (by simp [Blanks]) (endsNumeral_cons (by decide))

end TagMenu.Json
