import Std.Data.HashMap
import TagMenu.Text.Split
import TagMenu.Text.Digits
import TagMenu.Unicode.EuropeanNames
import TagMenu.Unicode.IndicNames
import TagMenu.Unicode.SyllabaryNames
import TagMenu.Unicode.SymbolNames
import TagMenu.Unicode.EastAsianNames
import TagMenu.Unicode.PresentationNames
import TagMenu.Unicode.AncientNames
import TagMenu.Unicode.HieroglyphNames
import TagMenu.Unicode.NotationNames
import TagMenu.Unicode.PictographNames

namespace TagMenu.Unicode

abbrev NameTable := String → Option Char

namespace Name

/-- The names of one line of a table, such as `30 DIGIT |ZERO|ONE|TWO`: the first code point, what
    all the names begin with, and how the names of successive code points end. -/
def ofLine (line : List Char) : List (String × Char) :=
  match Text.cutFirst? ' ' line with
  | none => []
  | some (code, names) =>
    match Text.hexNumber? code, Text.pieces '|' names with
    | some first, start :: endings =>
      endings.zipIdx.map fun (ending, i) => (String.ofList (start ++ ending), Char.ofNat (first + i))
    | _, _ => []

def tables : List String :=
  [europeanNames, indicNames, syllabaryNames, symbolNames, eastAsianNames, presentationNames,
    ancientNames, hieroglyphNames, notationNames, pictographNames]

def index : Thunk (Std.HashMap String Char) :=
  Thunk.mk fun _ =>
    tables.foldl (fun index table =>
      (Text.pieces '\n' table.toList).foldl (fun index line =>
        (ofLine line).foldl (fun index (name, c) => index.insert name c) index) index) ∅

/-- Names of the parts of a Hangul syllable: the initial consonants, the vowels and the final
    consonants, in the order of the syllables. -/
def initials : List String :=
  ["G", "GG", "N", "D", "DD", "R", "M", "B", "BB", "S", "SS", "", "J", "JJ", "C", "K", "T", "P", "H"]

def vowels : List String :=
  ["A", "AE", "YA", "YAE", "EO", "E", "YEO", "YE", "O", "WA", "WAE", "OE", "YO", "U", "WEO", "WE",
    "WI", "YU", "EU", "YI", "I"]

def finals : List String :=
  ["", "G", "GG", "GS", "N", "NJ", "NH", "D", "L", "LG", "LM", "LB", "LS", "LT", "LP", "LH", "M",
    "B", "BS", "S", "SS", "NG", "J", "C", "K", "T", "P", "H"]

def after? : List Char → List Char → Option (List Char)
  | [], text => some text
  | _ :: _, [] => none
  | c :: start, d :: text => if c = d then after? start text else none

def longestPart? (parts : List String) (name : List Char) : Option (Nat × List Char) :=
  let candidates := parts.zipIdx.filterMap fun (part, i) =>
    (after? part.toList name).map fun rest => (i, rest)
  candidates.foldl (fun best candidate =>
    match best with
    | some (_, rest) => if candidate.2.length < rest.length then some candidate else best
    | none => some candidate) none

def syllable? (name : List Char) : Option Char := do
  let (initial, name) ← longestPart? initials name
  let (vowel, name) ← longestPart? vowels name
  let (final, name) ← longestPart? finals name
  if name.isEmpty then Text.scalar? (0xAC00 + (initial * vowels.length + vowel) * finals.length + final)
  else none

def ideographs : List (Nat × Nat) :=
  [(0x3400, 0x4DBF), (0x4E00, 0x9FFF), (0x20000, 0x2A6DF), (0x2A700, 0x2B739), (0x2B740, 0x2B81D),
    (0x2B820, 0x2CEA1), (0x2CEB0, 0x2EBE0), (0x2EBF0, 0x2EE5D), (0x30000, 0x3134A),
    (0x31350, 0x323AF)]

def numberedHieroglyphs : List (Nat × Nat) := [(0x13460, 0x143FA)]

def numbered? (blocks : List (Nat × Nat)) (digits : List Char) : Option Char := do
  let code ← Text.hexNumber? digits
  if digits.length ≤ 5 && blocks.any fun (low, high) => low ≤ code && code ≤ high then
    Text.scalar? code
  else none

/-- The character of a name. Small letters of ASCII count as capital ones; all else has to be as it
    is in the standard. -/
def character? : NameTable := fun name =>
  let name := name.toList.map Char.toUpper
  match after? "HANGUL SYLLABLE ".toList name with
  | some parts => syllable? parts
  | none =>
    match after? "CJK UNIFIED IDEOGRAPH-".toList name with
    | some digits => numbered? ideographs digits
    | none =>
      match after? "EGYPTIAN HIEROGLYPH-".toList name with
      | some digits => numbered? numberedHieroglyphs digits
      | none => index.get.get? (String.ofList name)

end Name

end TagMenu.Unicode
