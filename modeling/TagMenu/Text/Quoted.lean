import TagMenu.Unicode.Current

namespace TagMenu.Text

def isVoicingMark (c : Char) : Bool := c == '\uFF9E' || c == '\uFF9F'

def isShown (c : Char) : Bool :=
  !(Unicode.Current.hidden.contains c.toNat || Unicode.Current.isUnassigned c.toNat) &&
    (isVoicingMark c || !Unicode.Current.joining.contains c.toNat)

def isPlain (c : Char) : Bool := c == ' ' || isShown c

def quoteChar (c : Char) : List Char :=
  match c with
  | '"' => ['\\', '"']
  | '\\' => ['\\', '\\']
  | '\x00' => ['\\', '0']
  | '\t' => ['\\', 't']
  | '\n' => ['\\', 'n']
  | '\r' => ['\\', 'r']
  | c =>
    if isPlain c then [c]
    else ['\\', 'u', '\x7b'] ++ (lowerHex c.toNat).toList ++ ['\x7d']

def quoted (text : String) : String :=
  String.ofList ('"' :: text.toList.flatMap quoteChar ++ ['"'])

end TagMenu.Text
