import TagMenu.Text.Digits
import TagMenu.Text.Utf8
import TagMenu.Text.Quoted
import TagMenu.Unicode.Name

namespace TagMenu.Escape

inductive Fault where
  | trailingBackslash
  | truncatedHex (letter : Char) (expected : Nat)
  | malformedName
  | unknownName (name : String)
  | invalidCodePoint (value : Nat)
deriving DecidableEq, Repr

/-- A fault, with the offset in octets of the backslash that begins the escape. -/
structure Error where
  fault : Fault
  offset : Nat
deriving DecidableEq, Repr

def Error.message (error : Error) : String :=
  let place := " at byte " ++ toString error.offset
  match error.fault with
  | .trailingBackslash => "trailing backslash" ++ place
  | .truncatedHex letter expected =>
    "truncated \\" ++ letter.toString ++ " escape" ++ place ++ ": expected " ++ toString expected ++
      " hex digits"
  | .malformedName => "malformed \\N character escape" ++ place
  | .unknownName name => "unknown Unicode character name " ++ Text.quoted name ++ place
  | .invalidCodePoint value => "invalid code point U+" ++ Text.upperHex 4 value ++ place

/-- The escapes that are one character after the backslash, and the text they stand for. A line
    feed after a backslash stands for nothing. -/
def simple? : Char → Option (List Char)
  | '\n' => some []
  | '\\' => some ['\\']
  | '\'' => some ['\'']
  | '"' => some ['"']
  | 'a' => some ['\x07']
  | 'b' => some ['\x08']
  | 'f' => some ['\x0c']
  | 'n' => some ['\n']
  | 'r' => some ['\r']
  | 't' => some ['\t']
  | 'v' => some ['\x0b']
  | _ => none

def hexDigits? : Char → Option Nat
  | 'x' => some 2
  | 'u' => some 4
  | 'U' => some 8
  | _ => none

inductive Reading where
  | plain
  | backslash
  /-- In the digits after `letter`, of which `missing` and one more are still to come. -/
  | hex (letter : Char) (expected missing : Nat) (value : Nat)
  | nameStart
  /-- In a name, of which these characters have been read, the last one first. -/
  | name (reversed : List Char)
  /-- In the digits of an octal escape, of which `left` and one more may still come. -/
  | octal (left : Nat) (value : Nat)
deriving DecidableEq, Repr

def characterOf (value : Nat) : Except Fault (List Char) :=
  match Text.scalar? value with
  | some c => .ok [c]
  | none => .error (.invalidCodePoint value)

def readPlain (c : Char) : List Char × Reading :=
  if c = '\\' then ([], .backslash) else ([c], .plain)

def readEscaped (c : Char) : List Char × Reading :=
  match simple? c with
  | some text => (text, .plain)
  | none =>
    match hexDigits? c with
    | some digits => ([], .hex c digits (digits - 1) 0)
    | none =>
      if c = 'N' then ([], .nameStart)
      else
        match Text.octalValue? c with
        | some value => ([], .octal 1 value)
        | none => (['\\', c], .plain)

def within32? (n : Nat) : Option Nat := if n < 0x100000000 then some n else none

/-- A number with one more hexadecimal digit, if all that is calculated for it fits into 32 bits. -/
def pushDigit? (value digit : Nat) : Option Nat := do
  within32? ((← within32? (value * 16)) + digit)

def step (names : Unicode.NameTable) : Reading → Char → Except Fault (List Char × Reading)
  | .plain, c => .ok (readPlain c)
  | .backslash, c => .ok (readEscaped c)
  | .hex letter expected missing value, c =>
    match Text.hexValue? c with
    | none => .error (.truncatedHex letter expected)
    | some digit =>
      match pushDigit? value digit with
      | none => .error (.invalidCodePoint value)
      | some value =>
        match missing with
        | 0 => (characterOf value).map fun text => (text, .plain)
        | missing + 1 => .ok ([], .hex letter expected missing value)
  | .nameStart, c => if c = '\x7b' then .ok ([], .name []) else .error .malformedName
  | .name reversed, c =>
    if c = '\x7d' then
      if reversed.isEmpty then .error .malformedName
      else
        let name := String.ofList reversed.reverse
        match names name with
        | some named => .ok ([named], .plain)
        | none => .error (.unknownName name)
    else .ok ([], .name (c :: reversed))
  | .octal left value, c =>
    match Text.octalValue? c with
    | some digit =>
      match left with
      | 0 => (characterOf (value * 8 + digit)).map fun text => (text, .plain)
      | left + 1 => .ok ([], .octal left (value * 8 + digit))
    | none =>
      (characterOf value).map fun text =>
        let (more, reading) := readPlain c
        (text ++ more, reading)

def finish : Reading → Except Fault (List Char)
  | .plain => .ok []
  | .backslash => .error .trailingBackslash
  | .hex letter expected _ _ => .error (.truncatedHex letter expected)
  | .nameStart | .name _ => .error .malformedName
  | .octal _ value => characterOf value

/-- Decodes `text` from a reading on; `start` is the offset of the backslash that began the escape
    being read, and `offset` that of the next character. -/
def decodeFrom (names : Unicode.NameTable) (reading : Reading) (start offset : Nat) :
    List Char → Except Error (List Char)
  | [] => (finish reading).mapError (⟨·, start⟩)
  | c :: rest => do
    let (text, next) ← (step names reading c).mapError (⟨·, start⟩)
    let start := if next = .backslash then offset else start
    let more ← decodeFrom names next start (offset + c.utf8Size) rest
    return text ++ more

def decodeAll (names : Unicode.NameTable) (text : String) : Except Error String :=
  (decodeFrom names .plain 0 0 text.toList).map String.ofList

def decode (names : Unicode.NameTable) (text : String) : Except Error String :=
  if text.toList.contains '\\' then decodeAll names text else .ok text

end TagMenu.Escape
