import TagMenu.Disk.FileName
import TagMenu.Text.Digits
import TagMenu.Text.Utf8

namespace TagMenu.Shell

abbrev Octets := List Char

namespace Octets

def ofBytes (content : ByteArray) : Octets :=
  content.toList.map fun octet => Char.ofNat octet.toNat

def toBytes (text : Octets) : ByteArray := ⟨(text.map fun c => c.toNat.toUInt8).toArray⟩

def ofText (text : String) : Octets := ofBytes text.toUTF8

def ofName (name : FileName) : Octets := ofBytes ⟨name.octets.toArray⟩

def toText (text : Octets) : String := Text.readLossy text.toBytes

def ofInt (n : Int) : Octets := (toString n).toList

def join (separator : Octets) : List Octets → Octets
  | [] => []
  | [piece] => piece
  | piece :: next :: rest => piece ++ separator ++ join separator (next :: rest)

def before : Octets → Octets → Bool
  | _, [] => false
  | [], _ :: _ => true
  | c :: text, d :: other => c < d || c = d && before text other

def isSpace (c : Char) : Bool := [' ', '\t', '\n', '\x0b', '\x0c', '\x0d'].contains c

end Octets

def isNameStart (c : Char) : Bool := c.isAlpha || c = '_'

def isNamePart (c : Char) : Bool := c.isAlphanum || c = '_'

def isName : Octets → Bool
  | [] => false
  | c :: rest => isNameStart c && rest.all isNamePart

def isSpecial (c : Char) : Bool := ['#', '?', '$', '!', '-', '*', '@'].contains c || c.isDigit

def assignment? (text : Octets) : Option (Octets × Octets) :=
  let name := text.takeWhile isNamePart
  match text.drop name.length with
  | '=' :: value => if isName name then some (name, value) else none
  | _ => none

end TagMenu.Shell
