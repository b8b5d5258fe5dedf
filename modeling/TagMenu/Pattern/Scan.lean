import TagMenu.Pattern.Fault
import TagMenu.Text.Blank
import TagMenu.Text.Digits

namespace TagMenu.Pattern

def dropTrivia (inComment : Bool) : List Char → List Char
  | [] => []
  | c :: rest =>
    if inComment then dropTrivia (c != '\n') rest
    else if Text.isBlank c then dropTrivia false rest
    else if c = '#' then dropTrivia true rest
    else c :: rest

def skip (extended : Bool) (chars : List Char) : List Char :=
  if extended then dropTrivia false chars else chars

def spanVisible (extended : Bool) (keep : Char → Bool) (inComment : Bool) :
    List Char → List Char × List Char
  | [] => ([], [])
  | c :: rest =>
    if inComment then spanVisible extended keep (c != '\n') rest
    else if extended && Text.isBlank c then spanVisible extended keep false rest
    else if extended && c = '#' then spanVisible extended keep true rest
    else if keep c then
      let (run, rest) := spanVisible extended keep false rest
      (c :: run, rest)
    else ([], c :: rest)

/-- Looks ahead in the extended form. A comment counts as a blank sign before its text. -/
def peekPast? (signSeen : Bool) : List Char → Option Char
  | [] => none
  | c :: rest =>
    if Text.isBlank c then peekPast? signSeen rest
    else if c = '#' && !signSeen then peekPast? true rest
    else some c

def peek? (extended : Bool) (chars : List Char) : Option Char :=
  if extended then peekPast? false chars <|> chars.head? else chars.head?

def readCount (extended : Bool) (chars : List Char) : Except Fault (Nat × List Char) :=
  let (digits, rest) := spanVisible extended Char.isDigit false (chars.dropWhile Text.isBlank)
  let count := Text.numeral 10 (digits.filterMap Text.decimalValue?)
  if digits.isEmpty then .error .missingCount
  else if count < 0x100000000 then .ok (count, rest.dropWhile Text.isBlank)
  else .error .countTooLarge

def readBounds (extended : Bool) (chars : List Char) :
    Except Fault ((Nat × Option Nat) × List Char) := do
  let (min, rest) ← readCount extended (skip extended chars)
  match rest with
  | '\x7d' :: rest => return ((min, some min), rest)
  | ',' :: rest =>
    match skip extended rest with
    | '\x7d' :: rest => return ((min, none), rest)
    | rest =>
      let (max, rest) ← readCount extended rest
      match rest with
      | '\x7d' :: rest =>
        if min ≤ max then return ((min, some max), rest) else throw .reversedCount
      | _ => throw .unclosedCount
  | _ => throw .unclosedCount

def characterOf (digits : List Nat) : Except Fault Char :=
  match Text.scalar? (Text.numeral 16 digits) with
  | some c => .ok c
  | none => .error .notACharacter

def readDigits (extended : Bool) : Nat → List Char → Except Fault (List Nat × List Char)
  | 0, chars => .ok ([], chars)
  | _ + 1, [] => .error .badHex
  | count + 1, c :: rest =>
    match Text.hexValue? c with
    | none => .error .badHex
    | some digit => do
      let (digits, rest) ← readDigits extended count (skip extended rest)
      return (digit :: digits, rest)

def readHex (extended : Bool) (count : Nat) (chars : List Char) :
    Except Fault (Char × List Char) :=
  match skip extended chars with
  | '\x7b' :: rest =>
    match spanVisible extended (· != '\x7d') false rest with
    | (digits, '\x7d' :: rest) =>
      match digits.mapM Text.hexValue? with
      | none | some [] => .error .badHex
      | some digits => do return (← characterOf digits, rest)
    | _ => .error .badHex
  | chars => do
    let (digits, rest) ← readDigits extended count chars
    return (← characterOf digits, rest)

def cutAt? (mark : List Char) : List Char → Option (List Char × List Char)
  | [] => none
  | c :: rest =>
    if mark.isPrefixOf (c :: rest) then some ([], (c :: rest).drop mark.length)
    else (cutAt? mark rest).map fun (before, after) => (c :: before, after)

end TagMenu.Pattern
