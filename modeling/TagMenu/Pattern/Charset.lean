import TagMenu.Unicode.Category
import TagMenu.Unicode.Property
import TagMenu.Unicode.Folding

namespace TagMenu.Pattern

inductive Charset where
  | range (low high : Nat)
  | codes (set : Unicode.CodeSet)
  | union (left right : Charset)
  | intersection (left right : Charset)
  | difference (left right : Charset)
  | symmetricDifference (left right : Charset)
  | complement (set : Charset)
  | caseless (ascii : Bool) (set : Charset)

namespace Charset

def empty : Charset := codes .empty

def single (c : Char) : Charset := range c.toNat c.toNat

def orbit (ascii : Bool) (code : Nat) : List Nat :=
  if ascii then Unicode.Folding.asciiOrbit code else Unicode.Folding.orbit code

def mem : Charset → Nat → Bool
  | range low high, code => low ≤ code && code ≤ high
  | codes set, code => set.contains code
  | union left right, code => left.mem code || right.mem code
  | intersection left right, code => left.mem code && right.mem code
  | difference left right, code => left.mem code && !right.mem code
  | symmetricDifference left right, code => left.mem code != right.mem code
  | complement set, code => !set.mem code
  | caseless ascii set, code => (orbit ascii code).any set.mem

def contains (set : Charset) (c : Char) : Bool := set.mem c.toNat

def unionAll (sets : List Charset) : Charset := sets.foldr union empty

def negateIf (negated : Bool) (set : Charset) : Charset := if negated then complement set else set

def ofRanges (ranges : List (Nat × Nat)) : Charset := codes ⟨ranges⟩

def anyChar : Charset := range 0 0x10FFFF

def digits : Charset := codes (Unicode.Category.codes "nd")

def blanks : Charset :=
  ofRanges [(0x9, 0xD), (0x20, 0x20), (0x85, 0x85), (0xA0, 0xA0), (0x1680, 0x1680),
    (0x2000, 0x200A), (0x2028, 0x2029), (0x202F, 0x202F), (0x205F, 0x205F), (0x3000, 0x3000)]

def wordCharacters : Charset :=
  codes (((["mn", "mc", "me", "nd", "pc"].map Unicode.Category.codes) ++
      [(Unicode.Property.codes? "joincontrol").getD .empty]).foldl
    Unicode.CodeSet.union Unicode.Property.alphabetic)

def asciiDigits : Charset := ofRanges [(0x30, 0x39)]

def asciiBlanks : Charset := ofRanges [(0x9, 0xD), (0x20, 0x20)]

def asciiWordCharacters : Charset :=
  ofRanges [(0x30, 0x39), (0x41, 0x5A), (0x5F, 0x5F), (0x61, 0x7A)]

def asciiClass? (name : String) : Option Charset :=
  (List.lookup name [
    ("alnum", [(0x30, 0x39), (0x41, 0x5A), (0x61, 0x7A)]),
    ("alpha", [(0x41, 0x5A), (0x61, 0x7A)]),
    ("ascii", [(0, 0x7F)]),
    ("blank", [(0x9, 0x9), (0x20, 0x20)]),
    ("cntrl", [(0, 0x1F), (0x7F, 0x7F)]),
    ("digit", [(0x30, 0x39)]),
    ("graph", [(0x21, 0x7E)]),
    ("lower", [(0x61, 0x7A)]),
    ("print", [(0x20, 0x7E)]),
    ("punct", [(0x21, 0x2F), (0x3A, 0x40), (0x5B, 0x60), (0x7B, 0x7E)]),
    ("space", [(0x9, 0xD), (0x20, 0x20)]),
    ("upper", [(0x41, 0x5A)]),
    ("word", [(0x30, 0x39), (0x41, 0x5A), (0x5F, 0x5F), (0x61, 0x7A)]),
    ("xdigit", [(0x30, 0x39), (0x41, 0x46), (0x61, 0x66)])]).map ofRanges

end Charset

end TagMenu.Pattern
