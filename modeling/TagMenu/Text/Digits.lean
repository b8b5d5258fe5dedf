namespace TagMenu.Text

def hexValue? (c : Char) : Option Nat :=
  if '0' ≤ c && c ≤ '9' then some (c.toNat - '0'.toNat)
  else if 'a' ≤ c && c ≤ 'f' then some (c.toNat - 'a'.toNat + 10)
  else if 'A' ≤ c && c ≤ 'F' then some (c.toNat - 'A'.toNat + 10)
  else none

def octalValue? (c : Char) : Option Nat :=
  if '0' ≤ c && c ≤ '7' then some (c.toNat - '0'.toNat) else none

def decimalValue? (c : Char) : Option Nat :=
  if '0' ≤ c && c ≤ '9' then some (c.toNat - '0'.toNat) else none

def numeral (base : Nat) (digits : List Nat) : Nat := digits.foldl (· * base + ·) 0

/-- The character with a code point, unless the number is a surrogate or above `10FFFF`. -/
def scalar? (code : Nat) : Option Char :=
  if valid : code.isValidChar then some (Char.ofNatAux code valid) else none

def lowerHex (n : Nat) : String := String.ofList (Nat.toDigits 16 n)

def upperHex (width n : Nat) : String :=
  let digits := (Nat.toDigits 16 n).map Char.toUpper
  String.ofList (List.replicate (width - digits.length) '0' ++ digits)

def hexNumber? (digits : List Char) : Option Nat :=
  if digits.isEmpty then none else (digits.mapM hexValue?).map (numeral 16)

end TagMenu.Text
