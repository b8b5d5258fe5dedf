namespace TagMenu.Text

abbrev Span := Nat × Nat

namespace OctetRange

def octets (code : Nat) : List Nat :=
  let tail (unit : Nat) := 0x80 + code / unit % 0x40
  if code ≤ 0x7F then [code]
  else if code ≤ 0x7FF then [0xC0 + code / 0x40, tail 1]
  else if code ≤ 0xFFFF then [0xE0 + code / 0x1000, tail 0x40, tail 1]
  else [0xF0 + code / 0x40000, tail 0x1000, tail 0x40, tail 1]

def blockCuts (low high size : Nat) : List Nat :=
  if low / size = high / size then []
  else if low % size ≠ 0 then [low / size * size + (size - 1)]
  else if high % size ≠ size - 1 then [high / size * size - 1]
  else []

/-- Where a range may have to be cut: first between octet strings of two lengths, then between
    blocks of code points whose last octets run through all values. -/
def cuts (low high : Nat) : List Nat :=
  [0x7F, 0x7FF, 0xFFFF] ++
    if high ≤ 0x7F then []
    else blockCuts low high 0x40 ++ blockCuts low high 0x1000 ++ blockCuts low high 0x40000

def plainRows (low high : Nat) : List (List Span) :=
  match found : (cuts low high).find? fun cut => low ≤ cut && cut < high with
  | some cut =>
    have within := List.find?_some found
    have : low ≤ cut ∧ cut < high := by simpa using within
    plainRows low cut ++ plainRows (cut + 1) high
  | none => if high < low then [] else [(octets low).zip (octets high)]
termination_by high - low

/-- The rows of a range, in the order of the code points. Surrogates have no octets. -/
def rows (low high : Nat) : List (List Span) :=
  if low < 0xE000 ∧ 0xD7FF < high then plainRows low 0xD7FF ++ plainRows 0xE000 high
  else plainRows low high

end OctetRange

end TagMenu.Text
