namespace TagMenu.Text

def width : List Char → Nat
  | [] => 0
  | c :: rest => c.utf8Size + width rest

def replacement : Char := '\uFFFD'

/-- A character that has begun: the octets it still needs, the range of the next of them, and
    the bits read so far. -/
structure Partial where
  owed : Nat
  low : Nat
  high : Nat
  bits : Nat
deriving DecidableEq, Repr

/-- An octet between two characters: the text it completes and the character it begins. The
    first octet of a character fixes its length and bounds its second octet, so that no
    character has two forms and no surrogate has any. -/
def leadOctet (octet : Nat) : List Char × Option Partial :=
  if octet ≤ 0x7F then ([Char.ofNat octet], none)
  else if 0xC2 ≤ octet && octet ≤ 0xDF then ([], some ⟨1, 0x80, 0xBF, octet % 0x20⟩)
  else if octet == 0xE0 then ([], some ⟨2, 0xA0, 0xBF, 0⟩)
  else if octet == 0xED then ([], some ⟨2, 0x80, 0x9F, 0xD⟩)
  else if 0xE1 ≤ octet && octet ≤ 0xEF then ([], some ⟨2, 0x80, 0xBF, octet % 0x10⟩)
  else if octet == 0xF0 then ([], some ⟨3, 0x90, 0xBF, 0⟩)
  else if 0xF1 ≤ octet && octet ≤ 0xF3 then ([], some ⟨3, 0x80, 0xBF, octet % 8⟩)
  else if octet == 0xF4 then ([], some ⟨3, 0x80, 0x8F, 4⟩)
  else ([replacement], none)

/-- An octet after the character that is under way: the text it completes and what is then under
    way. An octet that cannot go on with the character gives it up and is read afresh. -/
def nextOctet : Option Partial → Nat → List Char × Option Partial
  | none, octet => leadOctet octet
  | some character, octet =>
    if character.low ≤ octet && octet ≤ character.high then
      let bits := character.bits * 0x40 + octet % 0x40
      if character.owed ≤ 1 then ([Char.ofNat bits], none)
      else ([], some ⟨character.owed - 1, 0x80, 0xBF, bits⟩)
    else
      let (completed, next) := leadOctet octet
      (replacement :: completed, next)

def readOctets : Option Partial → List UInt8 → List Char
  | none, [] => []
  | some _, [] => [replacement]
  | pending, octet :: rest =>
    let (completed, next) := nextOctet pending octet.toNat
    completed ++ readOctets next rest

def readLossy (octets : ByteArray) : String := String.ofList (readOctets none octets.toList)

def readStrict? (octets : ByteArray) : Option String := String.fromUTF8? octets

end TagMenu.Text
