import TagMenu.Json.Builder
import TagMenu.Json.Lexer

/-!
The strict form of JSON. Its trees have tokens at their leaves, for a value that nobody asks for
need not be a text or a number that could be represented, and neither need a name inside of it.
-/

namespace TagMenu.Json.Strict

def isBlank (c : Char) : Bool := c == ' ' || c == '\t' || c == '\n' || c == '\r'

def after? : List Char → List Char → Option (List Char)
  | [], chars => some chars
  | _ :: _, [] => none
  | c :: word, d :: chars => if c = d then after? word chars else none

def readWord (word : String) (chars : List Char) : Option (Option Token × List Char) :=
  (after? (word.toList.drop 1) chars).map fun rest => (some (.word word), rest)

/-- A decimal numeral; a zero is not followed by another digit. -/
def readNumeral (chars : List Char) : Option (Token × List Char) := do
  let sign := readSign ['-'] chars
  let (magnitude, rest) ← readDecimal sign.2
  if rest.head?.any Char.isDigit then none
  else some (.numeral (String.ofList (sign.1 ++ magnitude)), rest)

def next (c : Char) (rest : List Char) : Option (Option Token × List Char) :=
  if isBlank c then some (none, rest)
  else
    match Token.punctuation? c with
    | some token => some (some token, rest)
    | none =>
      if c = '"' then (readText false c rest).map fun (token, rest) => (some token, rest)
      else if c = '-' ∨ c.isDigit then
        (readNumeral (c :: rest)).map fun (token, rest) => (some token, rest)
      else if c = 't' then readWord "true" rest
      else if c = 'f' then readWord "false" rest
      else if c = 'n' then readWord "null" rest
      else none

theorem after?_length {word chars rest : List Char} (h : after? word chars = some rest) :
    rest.length ≤ chars.length := by
  fun_induction after? word chars with
  | case1 =>
    cases h
    exact Nat.le_refl _
  | case2 => cases h
  | case3 _ _ _ ih => exact Nat.le_succ_of_le (ih h)
  | case4 => cases h

theorem readWord_length {word : String} {chars rest : List Char} {token : Option Token}
    (h : readWord word chars = some (token, rest)) : rest.length ≤ chars.length := by
  obtain ⟨_, eq, h⟩ := Option.map_eq_some_iff.mp h
  cases h
  exact after?_length eq

theorem readNumeral_length {chars rest : List Char} {token : Token}
    (h : readNumeral chars = some (token, rest)) : rest.length < chars.length := by
  obtain ⟨⟨magnitude, left⟩, eq, h⟩ := Option.bind_eq_some_iff.mp h
  dsimp only at h
  split at h
  · cases h
  · cases h
    have := readDecimal_length eq
    have := readSign_length ['-'] chars
    omega

theorem next_length {c : Char} {rest left : List Char} {token : Option Token}
    (h : next c rest = some (token, left)) : left.length ≤ rest.length := by
  unfold next at h
  split at h
  · cases h
    exact Nat.le_refl _
  · split at h
    · cases h
      exact Nat.le_refl _
    · split at h
      · obtain ⟨_, eq, h⟩ := Option.map_eq_some_iff.mp h
        cases h
        exact readText_length eq
      · split at h
        · obtain ⟨_, eq, h⟩ := Option.map_eq_some_iff.mp h
          cases h
          have := readNumeral_length eq
          simp only [List.length_cons] at this
          omega
        · split at h
          · exact readWord_length h
          · split at h
            · exact readWord_length h
            · split at h
              · exact readWord_length h
              · cases h

def lexer : Lexer := ⟨next, next_length⟩

def leaf? : Token → Option Token
  | .text content => some (.text content)
  | .numeral source => some (.numeral source)
  | .word word => some (.word word)
  | _ => none

def name? : Token → Option (Option String)
  | .text content => some content
  | _ => none

def dialect : Dialect Token (Option String) := ⟨leaf?, name?, false⟩

abbrev Document := Tree Token (Option String)

def read (text : String) : Option Document := do
  Builder.build dialect (← lexer.run text.toList)

end TagMenu.Json.Strict
