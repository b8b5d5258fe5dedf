import TagMenu.Text.Digits

namespace TagMenu.Json

inductive Token where
  | openList
  | closeList
  | openObject
  | closeObject
  | comma
  | colon
  /-- A text in quotes. It has no content if half of a surrogate pair stands alone in it. -/
  | text (content : Option String)
  | numeral (source : String)
  | word (source : String)
deriving DecidableEq, Repr

def Token.punctuation? : Char → Option Token
  | '[' => some openList
  | ']' => some closeList
  | '\x7b' => some openObject
  | '\x7d' => some closeObject
  | ',' => some comma
  | ':' => some colon
  | _ => none

inductive Piece where
  | char (c : Char)
  | unit (value : Nat)
deriving DecidableEq, Repr

def isHighUnit (unit : Nat) : Bool := 0xD800 ≤ unit && unit ≤ 0xDBFF

def isLowUnit (unit : Nat) : Bool := 0xDC00 ≤ unit && unit ≤ 0xDFFF

def contentOf : List Piece → Option (List Char)
  | [] => some []
  | .char c :: rest => (contentOf rest).map (c :: ·)
  | .unit high :: .unit low :: rest =>
    if isHighUnit high then
      if isLowUnit low then do
        let c ← Text.scalar? (0x10000 + (high - 0xD800) * 0x400 + (low - 0xDC00))
        (contentOf rest).map (c :: ·)
      else none
    else do
      let c ← Text.scalar? high
      (contentOf (.unit low :: rest)).map (c :: ·)
  | .unit unit :: rest => do
    let c ← Text.scalar? unit
    (contentOf rest).map (c :: ·)

def escape? (quote letter : Char) : Option Char :=
  match letter with
  | '\\' => some '\\'
  | '/' => some '/'
  | 'b' => some '\x08'
  | 'f' => some '\x0c'
  | 'n' => some '\n'
  | 'r' => some '\r'
  | 't' => some '\t'
  | c => if c = quote then some quote else none

/-- The pieces of a text up to its closing quote, and what follows that. Control characters are
    refused unless `raw`. -/
def readPieces (raw : Bool) (quote : Char) : List Char → Option (List Piece × List Char)
  | [] => none
  | '\\' :: 'u' :: a :: b :: c :: d :: rest => do
    let unit ← [a, b, c, d].mapM Text.hexValue?
    let (pieces, rest) ← readPieces raw quote rest
    return (.unit (Text.numeral 16 unit) :: pieces, rest)
  | '\\' :: letter :: rest => do
    let c ← escape? quote letter
    let (pieces, rest) ← readPieces raw quote rest
    return (.char c :: pieces, rest)
  | c :: rest =>
    if c = quote then some ([], rest)
    else if c = '\\' ∨ (!raw ∧ c.toNat < 0x20) then none
    else do
      let (pieces, rest) ← readPieces raw quote rest
      return (.char c :: pieces, rest)

def readText (raw : Bool) (quote : Char) (chars : List Char) : Option (Token × List Char) := do
  let (pieces, rest) ← readPieces raw quote chars
  return (.text ((contentOf pieces).map String.ofList), rest)

def readDigits (isDigit : Char → Bool) (chars : List Char) : Option (List Char × List Char) :=
  let digits := chars.takeWhile isDigit
  if digits.isEmpty then none else some (digits, chars.dropWhile isDigit)

def readFraction : List Char → Option (List Char × List Char)
  | '.' :: rest => do
    let (digits, rest) ← readDigits Char.isDigit rest
    return ('.' :: digits, rest)
  | chars => some ([], chars)

def readSign (signs : List Char) : List Char → List Char × List Char
  | [] => ([], [])
  | c :: rest => if signs.contains c then ([c], rest) else ([], c :: rest)

def readExponent : List Char → Option (List Char × List Char)
  | [] => some ([], [])
  | c :: rest =>
    if c = 'e' ∨ c = 'E' then do
      let sign := readSign ['+', '-'] rest
      let (digits, rest) ← readDigits Char.isDigit sign.2
      return (c :: sign.1 ++ digits, rest)
    else some ([], c :: rest)

/-- The whole part of a numeral: a zero, or digits that do not begin with one. -/
def readWhole : List Char → Option (List Char × List Char)
  | '0' :: rest => some (['0'], rest)
  | chars => readDigits Char.isDigit chars

def readDecimal (chars : List Char) : Option (List Char × List Char) := do
  let (whole, rest) ← readWhole chars
  let (fraction, rest) ← readFraction rest
  let (exponent, rest) ← readExponent rest
  return (whole ++ fraction ++ exponent, rest)

end TagMenu.Json
