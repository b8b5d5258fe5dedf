import TagMenu.Number.Shortest
import TagMenu.Text.Split

namespace TagMenu.Json

inductive Number where
  | whole (value : Int)
  | double (value : Double)
deriving DecidableEq, Repr

namespace Number

def isWord (value : Int) : Bool := -0x8000000000000000 ≤ value && value < 0x10000000000000000

/-- A number with more digits after it, as far as 64 bits can hold it, and how many digits are then
    left out. -/
def extend (value : Nat) : List Char → Nat × Nat
  | [] => (value, 0)
  | c :: rest =>
    let next := value * 10 + (Text.decimalValue? c).getD 0
    if next < 0x10000000000000000 then extend next rest else (value, rest.length + 1)

def decimalParts (chars : List Char) : List Char × Option (List Char) × Option (List Char) :=
  let isMark (c : Char) := c == 'e' || c == 'E'
  let mantissa := chars.takeWhile (!isMark ·)
  let exponent := (chars.dropWhile (!isMark ·)).tail?
  match Text.cutFirst? '.' mantissa with
  | some (digits, fraction) => (digits, some fraction, exponent)
  | none => (mantissa, none, exponent)

def exponentOf : List Char → Int
  | '-' :: digits => -Int.ofNat (Text.numeral 10 (digits.filterMap Text.decimalValue?))
  | chars => Int.ofNat (Text.numeral 10 (chars.filterMap Text.decimalValue?))

/-- The number of a decimal numeral without its sign, nothing if it is too large. A numeral with a
    point or an exponent is always a double, and so is zero with a minus sign. -/
def ofDecimal? (negative : Bool) (chars : List Char) : Option Number :=
  let (digits, fraction, exponent) := decimalParts chars
  let (magnitude, dropped) := extend 0 digits
  match fraction, exponent with
  | none, none =>
    let value := if negative then -Int.ofNat magnitude else Int.ofNat magnitude
    if dropped = 0 ∧ isWord value ∧ ¬(negative ∧ magnitude = 0) then some (.whole value)
    else (Double.ofParts? negative magnitude dropped).map double
  | fraction, exponent =>
    let places := fraction.getD []
    let (significand, unread) := extend magnitude places
    let scale := Int.ofNat dropped - Int.ofNat (places.length - unread)
    (Double.ofParts? negative significand (scale + (exponent.map exponentOf).getD 0)).map double

/-- The number of a numeral, which may have a sign and be hexadecimal. Beside its sign, a
    hexadecimal one has to fit into 63 bits. -/
def ofNumeral? (source : String) : Option Number :=
  let (negative, magnitude) := match source.toList with
    | '-' :: rest => (true, rest)
    | '+' :: rest => (false, rest)
    | chars => (false, chars)
  match magnitude with
  | '0' :: 'x' :: digits | '0' :: 'X' :: digits => do
    let value ← Text.hexNumber? digits
    if value < 0x8000000000000000 then
      some (.whole (if negative then -Int.ofNat value else Int.ofNat value))
    else none
  | chars => ofDecimal? negative chars

def text : Number → String
  | whole value => toString value
  | double value => value.text

end Number

end TagMenu.Json
