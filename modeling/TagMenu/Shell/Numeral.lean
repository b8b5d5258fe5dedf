import TagMenu.Shell.Octets

namespace TagMenu.Shell

structure Numeral where
  value : Int
  rest : Octets
  present : Bool
deriving DecidableEq, Repr

namespace Numeral

def ofDigits (base : Nat) (negative : Bool) (text : Octets) : Numeral :=
  let isDigit (c : Char) := (Text.hexValue? c).any (· < base)
  let digits := text.takeWhile isDigit
  let magnitude := Int.ofNat (Text.numeral base (digits.filterMap Text.hexValue?))
  ⟨if negative then -magnitude else magnitude, text.drop digits.length, !digits.isEmpty⟩

def ofStart (negative : Bool) (text : Octets) : Numeral :=
  match text with
  | '0' :: 'x' :: c :: rest | '0' :: 'X' :: c :: rest =>
    if (Text.hexValue? c).isSome then ofDigits 16 negative (c :: rest) else ofDigits 8 negative text
  | '0' :: _ => ofDigits 8 negative text
  | _ => ofDigits 10 negative text

def read (decimal : Bool) (text : Octets) : Numeral :=
  let number := if decimal then ofDigits 10 else ofStart
  let found := match text.dropWhile Octets.isSpace with
    | '-' :: rest => number true rest
    | '+' :: rest => number false rest
    | rest => number false rest
  if found.present then found else ⟨0, text, false⟩

end Numeral

def largestWord : Int := 0x7FFFFFFFFFFFFFFF

def smallestWord : Int := -0x8000000000000000

def wordCount : Int := 0x10000000000000000

def clamp (n : Int) : Int := max smallestWord (min largestWord n)

def isWord (n : Int) : Bool := smallestWord ≤ n && n ≤ largestWord

def wrap (n : Int) : Int := Int.bmod n wordCount.toNat

def unsigned (n : Int) : Nat := (n % wordCount).toNat

/-- The number that a text is, with blanks around it, if it is one that a word can hold. An empty text
    is nought, unless it has to be decimal. -/
def wholeNumber? (decimal : Bool) (text : Octets) : Option Int :=
  let found := Numeral.read decimal text
  if isWord found.value && (found.present || !decimal) && found.rest.all Octets.isSpace then
    some found.value
  else none

end TagMenu.Shell
