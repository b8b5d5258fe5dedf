import TagMenu.Json.Builder
import TagMenu.Json.Lexer
import TagMenu.Json.Value
import TagMenu.Unicode.Current
import TagMenu.Text.Blank

/-!
The loose form of JSON, for files that people write: with comments, commas that may be left out or
stand at the end, texts in single quotes, names without quotes, and hexadecimal numbers.
-/

namespace TagMenu.Json.Loose

def isLetterOrNumber (c : Char) : Bool := Unicode.Current.lettersAndNumbers.contains c.toNat

def isWordCharacter (c : Char) : Bool := c == '-' || c == '_' || isLetterOrNumber c

def dropComment : List Char → Option (List Char)
  | [] => none
  | '*' :: '/' :: rest => some rest
  | _ :: rest => dropComment rest

def readWord (chars : List Char) : Option (Token × List Char) :=
  let word := chars.takeWhile isWordCharacter
  let rest := chars.dropWhile isWordCharacter
  if word.isEmpty || !rest.head?.all fun c => Text.isBlank c || c == ':' then none
  else some (.word (String.ofList word), rest)

def dropLiteral? (word : String) (chars : List Char) : Option (List Char) :=
  if word.toList.isPrefixOf chars && !((chars.drop word.length).head?.any isLetterOrNumber) then
    some (chars.drop word.length)
  else none

def readLiteral (chars : List Char) : Option (Token × List Char) :=
  ["true", "false", "null"].findSome? fun word => (dropLiteral? word chars).map (.word word, ·)

def readMagnitude : List Char → Option (List Char × List Char)
  | '0' :: 'x' :: rest => do
    let (digits, rest) ← readDigits (Text.hexValue? · |>.isSome) rest
    return ('0' :: 'x' :: digits, rest)
  | '0' :: 'X' :: rest => do
    let (digits, rest) ← readDigits (Text.hexValue? · |>.isSome) rest
    return ('0' :: 'X' :: digits, rest)
  | chars => readDecimal chars

def readNumeral (chars : List Char) : Option (Token × List Char) := do
  let sign := readSign ['+', '-'] chars
  let (magnitude, rest) ← readMagnitude sign.2
  return (.numeral (String.ofList (sign.1 ++ magnitude)), rest)

def readWholeText (quote : Char) (chars : List Char) : Option (Token × List Char) := do
  let (token, rest) ← readText true quote chars
  if token = .text none then none else some (token, rest)

def next (c : Char) (rest : List Char) : Option (Option Token × List Char) :=
  if Text.isBlank c then some (none, rest)
  else if c = '/' then
    match rest with
    | '/' :: rest => some (none, rest.dropWhile (· != '\n'))
    | '*' :: rest => (dropComment rest).map (none, ·)
    | _ => none
  else
    match Token.punctuation? c with
    | some token => some (some token, rest)
    | none =>
      if c = '"' ∨ c = '\'' then (readWholeText c rest).map fun (token, rest) => (some token, rest)
      else if c = '-' ∨ c = '+' ∨ c.isDigit then
        (readNumeral (c :: rest)).map fun (token, rest) => (some token, rest)
      else
        match readLiteral (c :: rest) with
        | some (token, rest) => some (some token, rest)
        | none => (readWord (c :: rest)).map fun (token, rest) => (some token, rest)

theorem dropComment_length {chars rest : List Char} (h : dropComment chars = some rest) :
    rest.length ≤ chars.length := by
  fun_induction dropComment chars with
  | case1 => cases h
  | case2 =>
    cases h
    simp only [List.length_cons]
    omega
  | case3 _ _ _ ih =>
    have := ih h
    simp only [List.length_cons]
    omega

theorem length_dropWhile_lt {keep : Char → Bool} {chars : List Char}
    (filled : (chars.takeWhile keep).isEmpty = false) :
    (chars.dropWhile keep).length < chars.length := by
  have whole := congrArg List.length (List.takeWhile_append_dropWhile (p := keep) (l := chars))
  have : (chars.takeWhile keep).length ≠ 0 := by
    intro none
    rw [List.length_eq_zero_iff] at none
    rw [none] at filled
    cases filled
  rw [List.length_append] at whole
  omega

theorem readWord_length {chars rest : List Char} {token : Token}
    (h : readWord chars = some (token, rest)) : rest.length < chars.length := by
  unfold readWord at h
  dsimp only at h
  split at h
  · cases h
  · rename_i filled
    cases h
    simp only [Bool.or_eq_true, not_or, Bool.not_eq_true] at filled
    exact length_dropWhile_lt filled.1

theorem dropLiteral?_length {word : String} {chars rest : List Char} (filled : word.length ≠ 0)
    (h : dropLiteral? word chars = some rest) : rest.length < chars.length := by
  unfold dropLiteral? at h
  split at h
  · rename_i found
    cases h
    simp only [Bool.and_eq_true, List.isPrefixOf_iff_prefix] at found
    have := found.1.length_le
    rw [String.length_toList] at this
    rw [List.length_drop]
    omega
  · cases h

theorem readLiteral_length {chars rest : List Char} {token : Token}
    (h : readLiteral chars = some (token, rest)) : rest.length < chars.length := by
  obtain ⟨word, listed, h⟩ := List.exists_of_findSome?_eq_some h
  obtain ⟨left, dropped, h⟩ := Option.map_eq_some_iff.mp h
  cases h
  refine dropLiteral?_length ?_ dropped
  simp only [List.mem_cons, List.not_mem_nil, or_false] at listed
  rcases listed with rfl | rfl | rfl <;> decide

theorem readMagnitude_length {chars magnitude rest : List Char}
    (h : readMagnitude chars = some (magnitude, rest)) : rest.length < chars.length := by
  unfold readMagnitude at h
  split at h
  · obtain ⟨⟨digits, left⟩, eq, h⟩ := Option.bind_eq_some_iff.mp h
    cases h
    have := readDigits_length eq
    simp only [List.length_cons]
    omega
  · obtain ⟨⟨digits, left⟩, eq, h⟩ := Option.bind_eq_some_iff.mp h
    cases h
    have := readDigits_length eq
    simp only [List.length_cons]
    omega
  · exact readDecimal_length h

theorem readNumeral_length {chars rest : List Char} {token : Token}
    (h : readNumeral chars = some (token, rest)) : rest.length < chars.length := by
  obtain ⟨⟨magnitude, left⟩, eq, h⟩ := Option.bind_eq_some_iff.mp h
  cases h
  have := readMagnitude_length eq
  have := readSign_length ['+', '-'] chars
  omega

theorem readWholeText_length {quote : Char} {chars rest : List Char} {token : Token}
    (h : readWholeText quote chars = some (token, rest)) : rest.length ≤ chars.length := by
  obtain ⟨⟨text, left⟩, eq, h⟩ := Option.bind_eq_some_iff.mp h
  dsimp only at h
  split at h
  · cases h
  · cases h
    exact readText_length eq

theorem next_length {c : Char} {rest left : List Char} {token : Option Token}
    (h : next c rest = some (token, left)) : left.length ≤ rest.length := by
  unfold next at h
  split at h
  · cases h
    exact Nat.le_refl _
  · split at h
    · split at h
      · cases h
        have := length_dropWhile_le (· != '\n')
        simp only [List.length_cons]
        exact Nat.le_succ_of_le (this _)
      · obtain ⟨_, eq, h⟩ := Option.map_eq_some_iff.mp h
        cases h
        have := dropComment_length eq
        simp only [List.length_cons]
        omega
      · cases h
    · split at h
      · cases h
        exact Nat.le_refl _
      · split at h
        · obtain ⟨_, eq, h⟩ := Option.map_eq_some_iff.mp h
          cases h
          exact readWholeText_length eq
        · split at h
          · obtain ⟨_, eq, h⟩ := Option.map_eq_some_iff.mp h
            cases h
            have := readNumeral_length eq
            simp only [List.length_cons] at this
            omega
          · split at h
            · rename_i eq
              cases h
              have := readLiteral_length eq
              simp only [List.length_cons] at this
              omega
            · obtain ⟨_, eq, h⟩ := Option.map_eq_some_iff.mp h
              cases h
              have := readWord_length eq
              simp only [List.length_cons] at this
              omega

def lexer : Lexer := ⟨next, next_length⟩

def literal? (word : String) : Option Scalar :=
  if word = "null" then some .null
  else if word = "true" then some (.bool true)
  else if word = "false" then some (.bool false)
  else none

def scalarOfNumeral (source : String) : Scalar :=
  match Number.ofNumeral? source with
  | some number => .number number
  | none => .text source

def leaf? : Token → Option Scalar
  | .text content => content.map .text
  | .numeral source => some (scalarOfNumeral source)
  | .word word => literal? word
  | _ => none

def name? : Token → Option String
  | .text content => content
  | .numeral source => some source
  | .word word => if (literal? word).isSome then none else some word
  | _ => none

def dialect : Dialect Scalar String := ⟨leaf?, name?, true⟩

/-- The value of a text. There may be no value in it at all, which counts as an empty object. -/
def read (text : String) : Option Value := do
  let tokens ← lexer.run text.toList
  if tokens.isEmpty then return .object [] else Builder.build dialect tokens

end TagMenu.Json.Loose
