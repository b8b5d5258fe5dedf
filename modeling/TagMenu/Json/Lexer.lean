import TagMenu.Json.Token

namespace TagMenu.Json

/-- A way to cut a text into tokens: it reads the next token, or passes over something between
    tokens, and always goes forward. -/
structure Lexer where
  next : Char → List Char → Option (Option Token × List Char)
  forward : ∀ {c rest token left}, next c rest = some (token, left) → left.length ≤ rest.length

def Lexer.run (lexer : Lexer) : List Char → Option (List Token)
  | [] => some []
  | c :: rest =>
    match read : lexer.next c rest with
    | none => none
    | some (token, left) =>
      have := lexer.forward read
      (lexer.run left).map (token.toList ++ ·)
termination_by chars => chars.length

theorem readPieces_length {raw : Bool} {quote : Char} {chars rest : List Char}
    {pieces : List Piece} (h : readPieces raw quote chars = some (pieces, rest)) :
    rest.length ≤ chars.length := by
  fun_induction readPieces raw quote chars generalizing pieces rest with
  | case1 => cases h
  | case2 a b c d after ih =>
    obtain ⟨_, _, h⟩ := Option.bind_eq_some_iff.mp h
    obtain ⟨⟨more, left⟩, eq, h⟩ := Option.bind_eq_some_iff.mp h
    cases h
    have := ih eq
    simp only [List.length_cons]
    omega
  | case3 letter after _ ih =>
    obtain ⟨_, _, h⟩ := Option.bind_eq_some_iff.mp h
    obtain ⟨⟨more, left⟩, eq, h⟩ := Option.bind_eq_some_iff.mp h
    cases h
    have := ih eq
    simp only [List.length_cons]
    omega
  | case4 =>
    cases h
    simp
  | case5 => cases h
  | case6 _ _ _ _ _ _ ih =>
    obtain ⟨⟨more, left⟩, eq, h⟩ := Option.bind_eq_some_iff.mp h
    cases h
    have := ih eq
    simp only [List.length_cons]
    omega

theorem readText_length {raw : Bool} {quote : Char} {chars rest : List Char} {token : Token}
    (h : readText raw quote chars = some (token, rest)) : rest.length ≤ chars.length := by
  obtain ⟨⟨pieces, left⟩, eq, h⟩ := Option.bind_eq_some_iff.mp h
  cases h
  exact readPieces_length eq

theorem length_dropWhile_le (drop : Char → Bool) (chars : List Char) :
    (chars.dropWhile drop).length ≤ chars.length := (List.dropWhile_suffix drop).length_le

theorem readDigits_length {isDigit : Char → Bool} {chars digits rest : List Char}
    (h : readDigits isDigit chars = some (digits, rest)) : rest.length < chars.length := by
  unfold readDigits at h
  dsimp only at h
  split at h
  · cases h
  · rename_i filled
    cases h
    have whole := congrArg List.length (List.takeWhile_append_dropWhile (p := isDigit) (l := chars))
    have : (chars.takeWhile isDigit).length ≠ 0 := by
      simpa [List.isEmpty_iff] using filled
    rw [List.length_append] at whole
    omega

theorem readFraction_length {chars fraction rest : List Char}
    (h : readFraction chars = some (fraction, rest)) : rest.length ≤ chars.length := by
  unfold readFraction at h
  split at h
  · obtain ⟨⟨digits, left⟩, eq, h⟩ := Option.bind_eq_some_iff.mp h
    cases h
    have := readDigits_length eq
    simp only [List.length_cons]
    omega
  · cases h
    exact Nat.le_refl _

theorem readSign_length (signs chars : List Char) :
    (readSign signs chars).2.length ≤ chars.length := by
  unfold readSign
  split
  · exact Nat.le_refl _
  · split <;> simp

theorem readExponent_length {chars exponent rest : List Char}
    (h : readExponent chars = some (exponent, rest)) : rest.length ≤ chars.length := by
  unfold readExponent at h
  split at h
  · cases h
    exact Nat.le_refl _
  · rename_i c after
    split at h
    · obtain ⟨⟨digits, left⟩, eq, h⟩ := Option.bind_eq_some_iff.mp h
      cases h
      have := readDigits_length eq
      have := readSign_length ['+', '-'] after
      simp only [List.length_cons]
      omega
    · cases h
      exact Nat.le_refl _

theorem readWhole_length {chars whole rest : List Char}
    (h : readWhole chars = some (whole, rest)) : rest.length < chars.length := by
  unfold readWhole at h
  split at h
  · cases h
    simp
  · exact readDigits_length h

theorem readDecimal_length {chars numeral rest : List Char}
    (h : readDecimal chars = some (numeral, rest)) : rest.length < chars.length := by
  obtain ⟨⟨whole, first⟩, wholeEq, h⟩ := Option.bind_eq_some_iff.mp h
  obtain ⟨⟨fraction, second⟩, fractionEq, h⟩ := Option.bind_eq_some_iff.mp h
  obtain ⟨⟨exponent, third⟩, exponentEq, h⟩ := Option.bind_eq_some_iff.mp h
  cases h
  have := readWhole_length wholeEq
  have := readFraction_length fractionEq
  have := readExponent_length exponentEq
  omega

end TagMenu.Json
