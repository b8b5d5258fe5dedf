import Mathlib
import TagMenu.Json.Lexer
import TagMenu.Proofs.Json.Grammar

namespace TagMenu.Json

variable {lexer : Lexer} {chars more rest digits sign whole fraction exponent inside opening closing : List Char}
  {c letter mark first last : Char} {found : Option Token} {token opener closer : Token} {tokens others : List Token}
  {piece : Piece} {pieces : List Piece} {content : String} {Item : Type}

def ReadsAs (lexer : Lexer) (chars : List Char) (tokens : List Token) (rest : List Char) : Prop :=
  lexer.run (chars ++ rest) = (lexer.run rest).map (tokens ++ ·)

theorem ReadsAs.nil (lexer : Lexer) (rest : List Char) : ReadsAs lexer [] [] rest := by
  simp [ReadsAs]

theorem ReadsAs.append (first : ReadsAs lexer chars tokens (more ++ rest)) (second : ReadsAs lexer more others rest) :
    ReadsAs lexer (chars ++ more) (tokens ++ others) rest := by
  unfold ReadsAs at *
  rw [List.append_assoc, first, second, Option.map_map]
  congr 1
  funext tail
  simp

theorem ReadsAs.of_next (step : lexer.next c (chars ++ rest) = some (found, rest)) :
    ReadsAs lexer (c :: chars) found.toList rest := by
  rw [ReadsAs, List.cons_append, Lexer.run]
  split
  · simp_all
  · rename_i read
    cases step.symm.trans read
    rfl

theorem ReadsAs.of_silent (silent : ∀ c ∈ chars, ∀ rest, lexer.next c rest = some (none, rest)) :
    ReadsAs lexer chars [] rest := by
  induction chars with
  | nil => exact .nil lexer rest
  | cons c more ih =>
    obtain ⟨here, silent⟩ := List.forall_mem_cons.mp silent
    have first : ReadsAs lexer [c] (none : Option Token).toList (more ++ rest) := .of_next (here _)
    exact first.append (ih silent)

theorem escape?_of_short (known : (letter, c) ∈ shortEscapes) : letter ≠ 'u' ∧ escape? '"' letter = some c := by
  have each : ∀ short ∈ shortEscapes, short.1 ≠ 'u' ∧ escape? '"' short.1 = some short.2 := by decide
  exact each (letter, c) known

theorem mapM_hexValue? {values : List Nat} (written : List.Forall₂ Escape.IsHexDigit values digits) :
    digits.mapM Text.hexValue? = some values := by
  induction written with
  | nil => rfl
  | cons digit rest ih => simp [List.mapM_cons, Escape.hexValue?_of_digit digit, ih]

theorem readPieces_spelled (spelled : piece.Spelled chars) (raw : Bool) (rest : List Char) :
    readPieces raw '"' (chars ++ rest) =
      (readPieces raw '"' rest).map fun (pieces, left) => (piece :: pieces, left) := by
  cases spelled with
  | @itself c shown plain =>
    obtain ⟨noQuote, noSlash⟩ := plain
    have visible : ¬ c.toNat < 0x20 := not_lt.mpr shown
    rw [List.singleton_append, readPieces, if_neg noQuote, if_neg (by simp [noSlash, visible])]
    · cases readPieces raw '"' rest <;> rfl
    · exact fun _ _ _ _ _ slash => absurd slash noSlash
    · exact fun _ _ slash => absurd slash noSlash
  | short known =>
    obtain ⟨other, escaped⟩ := escape?_of_short known
    rw [List.cons_append, List.cons_append, List.nil_append, readPieces, escaped]
    · cases readPieces raw '"' rest <;> rfl
    · rintro _ _ _ _ _ rfl
      exact absurd rfl other
  | @unit values digits written four =>
    obtain ⟨first, second, third, fourth, rfl⟩ := List.length_eq_four.mp four
    simp only [List.cons_append, List.nil_append]
    rw [readPieces, mapM_hexValue? written]
    cases readPieces raw '"' rest <;> rfl

theorem contentOf_of_makeUp {chars : List Char} (made : MakeUp pieces chars) : contentOf pieces = some chars := by
  induction made with
  | nothing => rfl
  | char rest ih => simp [contentOf, ih]
  | @unit c pieces chars rest ih =>
    -- A character is no half of a pair, whatever unit comes behind it.
    have single : isHighUnit c.toNat = false := by
      have valid : c.toNat < 0xD800 ∨ 0xDFFF < c.toNat ∧ c.toNat < 0x110000 := c.valid
      simp only [isHighUnit, Bool.and_eq_false_iff, decide_eq_false_iff_not]
      omega
    have scalar := Escape.scalar?_toNat c
    rcases pieces with _ | ⟨_ | other, more⟩
    · cases rest
      simp [contentOf, scalar]
    · simp [contentOf.eq_4, scalar, ih]
    · simp [contentOf, single, scalar, ih]
  | @pair high low c pieces chars first second code rest ih =>
    have scalar : Text.scalar? (0x10000 + (high - 0xD800) * 0x400 + (low - 0xDC00)) = some c :=
      code ▸ Escape.scalar?_toNat c
    have isHigh : isHighUnit high = true := by simpa [isHighUnit] using first
    have isLow : isLowUnit low = true := by simpa [isLowUnit] using second
    simp [contentOf, isHigh, isLow, scalar, ih]

theorem readText_of_isQuoted (quoted : IsQuoted pieces chars) :
    ∃ inside, chars = '"' :: inside ∧ ∀ raw rest, readText raw '"' (inside ++ rest) =
      some (.text ((contentOf pieces).map String.ofList), rest) := by
  obtain ⟨parts, spelled, rfl⟩ := quoted
  have read : ∀ raw rest, readPieces raw '"' (parts.flatten ++ '"' :: rest) = some (pieces, rest) := by
    intro raw rest
    induction spelled with
    | nil => simp [readPieces]
    | cons first later ih =>
      rw [List.flatten_cons, List.append_assoc, readPieces_spelled first, ih]
      rfl
  refine ⟨parts.flatten ++ ['"'], rfl, fun raw rest => ?_⟩
  rw [List.append_assoc, List.singleton_append, readText, read]
  rfl

theorem readText_of_isText (text : IsText content chars) :
    ∃ inside, chars = '"' :: inside ∧ ∀ raw rest, readText raw '"' (inside ++ rest) =
      some (.text (some content), rest) := by
  obtain ⟨pieces, quoted, made⟩ := text
  have read := readText_of_isQuoted quoted
  rwa [contentOf_of_makeUp made, Option.map_some, String.ofList_toList] at read

/-- What ends a numeral: no digit, point or exponent follows, and nothing that would make it hexadecimal. -/
def EndsNumeral (rest : List Char) : Prop :=
  ∀ c ∈ rest.head?, c.isDigit = false ∧ c ∉ ['.', 'e', 'E', 'x', 'X']

theorem endsNumeral_nil : EndsNumeral [] := nofun

theorem endsNumeral_cons (other : c ∈ [',', ']', '\x7d', ' ', '\t', '\n', '\r']) : EndsNumeral (c :: rest) := by
  rintro _ ⟨⟩
  simp only [List.mem_cons, List.not_mem_nil, or_false] at other
  rcases other with rfl | rfl | rfl | rfl | rfl | rfl | rfl <;> decide

theorem readDigits_append (digits : IsDigits chars) (ends : ∀ c ∈ rest.head?, c.isDigit = false) :
    readDigits Char.isDigit (chars ++ rest) = some (chars, rest) := by
  have stop : rest.takeWhile Char.isDigit = [] ∧ rest.dropWhile Char.isDigit = rest := by
    cases rest with
    | nil => simp
    | cons c after => simp [ends c rfl]
  obtain ⟨filled, digits⟩ := digits
  rw [readDigits, List.takeWhile_append_of_pos digits, List.dropWhile_append_of_pos digits, stop.1, stop.2,
    List.append_nil]
  simp [filled]

theorem readWhole_append (wholly : IsWhole whole) (ends : ∀ c ∈ rest.head?, c.isDigit = false) :
    readWhole (whole ++ rest) = some (whole, rest) := by
  obtain ⟨digits, zero⟩ := wholly
  have run := readDigits_append digits ends
  obtain ⟨first, more, rfl⟩ := List.exists_cons_of_ne_nil digits.1
  by_cases leading : first = '0'
  · subst leading
    rw [zero rfl]
    rfl
  · unfold readWhole
    split
    · simp_all
    · exact run

theorem readFraction_append (broken : IsFraction fraction)
    (ends : ∀ c ∈ rest.head?, c.isDigit = false ∧ c ≠ '.') :
    readFraction (fraction ++ rest) = some (fraction, rest) := by
  cases broken with
  | none =>
    rw [List.nil_append]
    unfold readFraction
    split
    · exact absurd rfl (ends '.' rfl).2
    · rfl
  | some filled =>
    have run := readDigits_append filled fun c follows => (ends c follows).1
    simp [readFraction, run]

theorem readSign_append (signed : sign = [] ∨ sign = ['+'] ∨ sign = ['-'])
    (first : ∀ c ∈ rest.head?, c.isDigit = true) : readSign ['+', '-'] (sign ++ rest) = (sign, rest) := by
  rcases signed with rfl | rfl | rfl
  · cases rest with
    | nil => rfl
    | cons c after =>
      have digit := first c rfl
      have plus : c ≠ '+' := fun same => by simp [same] at digit
      have minus : c ≠ '-' := fun same => by simp [same] at digit
      simp [readSign, plus, minus]
  · simp [readSign]
  · simp [readSign]

theorem readExponent_append (scaled : IsExponent exponent) (ends : EndsNumeral rest) :
    readExponent (exponent ++ rest) = some (exponent, rest) := by
  cases scaled with
  | none =>
    cases rest with
    | nil => rfl
    | cons c after =>
      have other := (ends c rfl).2
      simp only [List.mem_cons, not_or] at other
      simp [readExponent, other]
  | @some mark sign digits marked signed filled =>
    have run := readDigits_append filled fun c follows => (ends c follows).1
    have first : ∀ c ∈ (digits ++ rest).head?, c.isDigit = true := by
      obtain ⟨c, more, rfl⟩ := List.exists_cons_of_ne_nil filled.1
      rintro _ ⟨⟩
      exact filled.2 c (List.mem_cons_self ..)
    simp [readExponent, marked, readSign_append signed first, run]

theorem readDecimal_append (wholly : IsWhole whole) (broken : IsFraction fraction) (scaled : IsExponent exponent)
    (ends : EndsNumeral rest) :
    readDecimal (whole ++ fraction ++ exponent ++ rest) = some (whole ++ fraction ++ exponent, rest) := by
  have behindFraction : ∀ c ∈ (exponent ++ rest).head?, c.isDigit = false ∧ c ≠ '.' := by
    cases scaled with
    | none => exact fun c follows => ⟨(ends c follows).1, fun same => (ends c follows).2 (by simp [same])⟩
    | some marked =>
      rintro _ ⟨⟩
      rcases marked with rfl | rfl <;> decide
  have behindWhole : ∀ c ∈ (fraction ++ (exponent ++ rest)).head?, c.isDigit = false := by
    cases broken with
    | none => exact fun c follows => (behindFraction c follows).1
    | some =>
      rintro _ ⟨⟩
      decide
  rw [List.append_assoc, List.append_assoc, readDecimal, readWhole_append wholly behindWhole]
  simp [readFraction_append broken behindFraction, readExponent_append scaled ends]

/-- The lexer reads every mark of punctuation by itself, and passes over blanks. -/
structure Lexer.Regular (lexer : Lexer) : Prop where
  mark : ∀ {c token}, Token.punctuation? c = some token → ∀ rest, lexer.next c rest = some (some token, rest)
  blank : ∀ {c}, c = ' ' ∨ c = '\t' ∨ c = '\n' ∨ c = '\r' → ∀ rest, lexer.next c rest = some (none, rest)

theorem Lexer.Regular.readsAs_blanks (regular : lexer.Regular) (blank : Blanks chars) (rest : List Char) :
    ReadsAs lexer chars [] rest :=
  .of_silent fun c inside _ => regular.blank (blank c inside) _

theorem Lexer.Regular.readsAs_mark (regular : lexer.Regular) (known : Token.punctuation? mark = some token)
    (marked : IsMark mark chars) (rest : List Char) : ReadsAs lexer chars [token] rest := by
  obtain ⟨before, after, first, second, rfl⟩ := marked
  have point : ReadsAs lexer [mark] (some token).toList (after ++ rest) := .of_next (regular.mark known _)
  have behind : ReadsAs lexer ([mark] ++ after) ([token] ++ []) rest :=
    point.append (regular.readsAs_blanks second rest)
  exact (regular.readsAs_blanks first _).append behind

theorem endsNumeral_mark (other : mark ∈ [',', ']', '\x7d']) (marked : IsMark mark chars) :
    EndsNumeral (chars ++ rest) := by
  obtain ⟨before, after, first, -, rfl⟩ := marked
  cases before with
  | nil =>
    refine endsNumeral_cons ?_
    simp only [List.mem_cons, List.not_mem_nil, or_false] at other ⊢
    tauto
  | cons c before =>
    refine endsNumeral_cons ?_
    have blank := first c (List.mem_cons_self ..)
    simp only [List.mem_cons, List.not_mem_nil, or_false]
    tauto

def ReadsWhole (lexer : Lexer) (chars : List Char) (tokens : List Token) : Prop :=
  ∀ rest, EndsNumeral rest → ReadsAs lexer chars tokens rest

theorem ReadsWhole.member {name colon value : List Char} (regular : lexer.Regular)
    (named : ∀ rest, ReadsAs lexer name [token] rest) (marked : IsMark ':' colon)
    (whole : ReadsWhole lexer value tokens) :
    ReadsWhole lexer (name ++ colon ++ value) (token :: .colon :: tokens) := by
  intro rest ends
  have read : ReadsAs lexer colon [.colon] (value ++ rest) := regular.readsAs_mark rfl marked _
  exact ((named _).append read).append (whole rest ends)

theorem ReadsWhole.separated (regular : lexer.Regular) (items : List Item) (part : Item → List Char)
    (tokens : Item → List Token) (each : ∀ item ∈ items, ReadsWhole lexer (part item) (tokens item))
    (separated : Separated (items.map part) inside) :
    ReadsWhole lexer inside ([.comma].intercalate (items.map tokens)) := by
  induction items generalizing inside with
  | nil =>
    cases separated
    exact fun rest _ => .nil lexer rest
  | cons item more ih =>
    obtain ⟨first, each⟩ := List.forall_mem_cons.mp each
    cases more with
    | nil =>
      cases separated
      simpa using first
    | cons next more =>
      cases separated with
      | @more _ _ comma later _ mark separated =>
        intro rest ends
        have behind : EndsNumeral (comma ++ (later ++ rest)) := endsNumeral_mark (by simp) mark
        have between : ReadsAs lexer comma [.comma] (later ++ rest) := regular.readsAs_mark rfl mark _
        rw [List.map_cons, List.map_cons, List.intercalate_cons_cons, ← List.map_cons]
        exact ((first _ behind).append between).append (ih each separated rest ends)

theorem ReadsWhole.enclosed (regular : lexer.Regular) (items : List Item) (part : Item → List Char)
    (tokens : Item → List Token) (each : ∀ item ∈ items, ReadsWhole lexer (part item) (tokens item))
    (opens : IsMark first opening) (separated : Separated (items.map part) inside) (closes : IsMark last closing)
    (opened : Token.punctuation? first = some opener) (closed : Token.punctuation? last = some closer)
    (bracket : last ∈ [',', ']', '\x7d']) :
    ReadsWhole lexer (opening ++ inside ++ closing)
      (opener :: [.comma].intercalate (items.map tokens) ++ [closer]) := by
  intro rest _
  have behind : EndsNumeral (closing ++ rest) := endsNumeral_mark bracket closes
  have start : ReadsAs lexer opening [opener] (inside ++ (closing ++ rest)) := regular.readsAs_mark opened opens _
  have between := ReadsWhole.separated regular items part tokens each separated _ behind
  exact (start.append between).append (regular.readsAs_mark closed closes rest)

theorem run_of_readsWhole (whole : ReadsWhole lexer chars tokens) : lexer.run chars = some tokens := by
  simpa [ReadsAs, Lexer.run] using whole [] endsNumeral_nil

end TagMenu.Json
