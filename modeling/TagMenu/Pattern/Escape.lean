import TagMenu.Pattern.Expr
import TagMenu.Pattern.Flags
import TagMenu.Pattern.Scan
import TagMenu.Unicode.Query

namespace TagMenu.Pattern

inductive Atom where
  | char (c : Char) (octet : Bool)
  | set (set : Charset)
  | look (condition : Look)

/-- Closes a set under case and negates it, as the flags and the way it is written ask for. A
    negated set reaches beyond ASCII. -/
def finishSet (flags : Flags) (negated : Bool) (set : Charset) : Except Fault Charset :=
  let set := if flags.caseless then .caseless (!flags.unicode) set else set
  if negated && !flags.unicode then .error .notAscii else .ok (set.negateIf negated)

def shortClass? (flags : Flags) (letter : Char) : Option Charset :=
  match letter.toLower with
  | 'd' => some (if flags.unicode then .digits else .asciiDigits)
  | 's' => some (if flags.unicode then .blanks else .asciiBlanks)
  | 'w' => some (if flags.unicode then .wordCharacters else .asciiWordCharacters)
  | _ => none

/-- Finds a set by the text between braces, which names a property or says which value of one is
    asked for: a name, or a name and a value with `=`, `:` or `!=` between them. The flag says that
    the value is to be another one. -/
def findProperty? (text : List Char) : Option (Unicode.CodeSet × Bool) :=
  match cutAt? ['!', '='] text with
  | some (property, value) => (Unicode.Query.findValue? property value).map (·, true)
  | none =>
    match cutAt? [':'] text with
    | some (property, value) => (Unicode.Query.findValue? property value).map (·, false)
    | none =>
      match cutAt? ['='] text with
      | some (property, value) => (Unicode.Query.findValue? property value).map (·, false)
      | none => (Unicode.Query.find? text).map (·, false)

def readPropertyText (extended : Bool) (chars : List Char) :
    Except Fault (List Char × List Char) :=
  match skip extended chars with
  | [] => .error .unfinishedEscape
  | '\x7b' :: rest =>
    match spanVisible extended (· != '\x7d') false rest with
    | (text, '\x7d' :: rest) => .ok (text, rest)
    | _ => .error .unfinishedEscape
  | '\\' :: _ => .error .unknownProperty
  | c :: rest => .ok ([c], rest)

def readProperty (flags : Flags) (negated : Bool) (chars : List Char) :
    Except Fault (Charset × List Char) := do
  let (text, rest) ← readPropertyText flags.extended chars
  if !flags.unicode then throw .notAscii
  match findProperty? text with
  | none => throw .unknownProperty
  | some (codes, otherValue) =>
    let set ← finishSet flags (negated != otherValue) (.codes codes)
    return (set, rest)

def wordEdge? (name : String) : Option WordEdge :=
  match name with
  | "start" => some .start
  | "end" => some .finish
  | "start-half" => some .startHalf
  | "end-half" => some .finishHalf
  | _ => none

def isEdgeLetter (c : Char) : Bool := c.isAlpha || c == '-'

/-- The edge that is named in braces, after a letter that asks for a boundary. Braces that do not
    begin with a letter are left alone: they say how often it is repeated. -/
def readWordEdge (extended : Bool) (chars : List Char) : Except Fault (WordEdge × List Char) :=
  match chars with
  | '\x7b' :: rest =>
    match skip extended rest with
    | [] => .error .unfinishedEscape
    | first :: after =>
      if isEdgeLetter first then
        match spanVisible extended isEdgeLetter false (first :: after) with
        | (name, '\x7d' :: rest) =>
          match wordEdge? (String.ofList name) with
          | some edge => .ok (edge, rest)
          | none => .error .unknownWordEdge
        | _ => .error .unknownWordEdge
      else .ok (.boundary, chars)
  | _ => .ok (.boundary, chars)

def control? : Char → Option Char
  | 'a' => some '\x07'
  | 'f' => some '\x0c'
  | 't' => some '\t'
  | 'n' => some '\n'
  | 'r' => some '\r'
  | 'v' => some '\x0b'
  | _ => none

/-- Characters that stand for themselves after a backslash: those of ASCII that are neither letters
    nor digits, but for the angle brackets. -/
def standsForItself (c : Char) : Bool :=
  c.toNat ≤ 0x7F && !c.isAlphanum && c != '<' && c != '>'

def readEscape (flags : Flags) : List Char → Except Fault (Atom × List Char)
  | [] => .error .unfinishedEscape
  | c :: rest =>
    let atWord (edge : WordEdge) := Atom.look (.word edge (!flags.unicode))
    match c with
    | 'x' => do
      let inBraces := (skip flags.extended rest).head? = some '\x7b'
      let (c, rest) ← readHex flags.extended 2 rest
      return (.char c !inBraces, rest)
    | 'u' => do
      let (c, rest) ← readHex flags.extended 4 rest
      return (.char c false, rest)
    | 'U' => do
      let (c, rest) ← readHex flags.extended 8 rest
      return (.char c false, rest)
    | 'p' => do
      let (set, rest) ← readProperty flags false rest
      return (.set set, rest)
    | 'P' => do
      let (set, rest) ← readProperty flags true rest
      return (.set set, rest)
    | 'A' => .ok (.look .textStart, rest)
    | 'z' => .ok (.look .textEnd, rest)
    | 'B' => .ok (atWord .notBoundary, rest)
    | '<' => .ok (atWord .start, rest)
    | '>' => .ok (atWord .finish, rest)
    | 'b' => do
      let (edge, rest) ← readWordEdge flags.extended rest
      return (atWord edge, rest)
    | _ =>
      match shortClass? flags c with
      | some set =>
        if c.isUpper && !flags.unicode then .error .notAscii
        else .ok (.set (set.negateIf c.isUpper), rest)
      | none =>
        match control? c with
        | some control => .ok (.char control false, rest)
        | none =>
          if c.isDigit then .error .backreference
          else if standsForItself c then .ok (.char c false, rest)
          else .error .unknownEscape

end TagMenu.Pattern
