import TagMenu.Text.Split
import TagMenu.Text.Utf8

namespace TagMenu

/-- The name of an entry of a directory: octets, which need not be those of a text. -/
structure FileName where
  octets : List UInt8
deriving DecidableEq, Repr

namespace FileName

def ofText (text : String) : FileName := ⟨text.toUTF8.data.toList⟩

instance : Coe String FileName := ⟨ofText⟩

def text? (name : FileName) : Option String := Text.readStrict? ⟨name.octets.toArray⟩

def fullStop : UInt8 := 0x2E

def extension? (name : FileName) : Option FileName := (Text.cutExtension fullStop name.octets).2.map mk

/-- Names that lead somewhere are ordered by the first of them that differ, and those by their octets. -/
def key (names : List FileName) : List (List Nat) := names.map (·.octets.map UInt8.toNat)

def sort (ways : List (List FileName)) : List (List FileName) :=
  ways.mergeSort fun first second => decide ¬ key second < key first

end FileName

end TagMenu
