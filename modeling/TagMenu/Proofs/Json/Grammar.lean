import Mathlib
import TagMenu.Json.Token
import TagMenu.Proofs.Escape.Spelling

namespace TagMenu.Json

open Escape (IsHexDigit)

def shortEscapes : List (Char × Char) :=
  [('"', '"'), ('\\', '\\'), ('/', '/'), ('b', '\x08'), ('f', '\x0c'), ('n', '\n'), ('r', '\r'), ('t', '\t')]

inductive Piece.Spelled : Piece → List Char → Prop
  | itself {c : Char} (shown : 0x20 ≤ c.toNat) (plain : c ≠ '"' ∧ c ≠ '\\') : Spelled (.char c) [c]
  | short {letter c : Char} (known : (letter, c) ∈ shortEscapes) : Spelled (.char c) ['\\', letter]
  | unit {values : List Nat} {digits : List Char} (written : List.Forall₂ IsHexDigit values digits)
      (four : digits.length = 4) : Spelled (.unit (Text.numeral 16 values)) ('\\' :: 'u' :: digits)

def IsQuoted (pieces : List Piece) (chars : List Char) : Prop :=
  ∃ parts, List.Forall₂ Piece.Spelled pieces parts ∧ chars = '"' :: parts.flatten ++ ['"']

/-- The characters that pieces make up. Units are characters of their own, or two of them the halves of one that takes
    more than sixteen bits. Nothing is made up where a half stands alone. -/
inductive MakeUp : List Piece → List Char → Prop
  | nothing : MakeUp [] []
  | char {c : Char} {pieces : List Piece} {chars : List Char} (rest : MakeUp pieces chars) :
      MakeUp (.char c :: pieces) (c :: chars)
  | unit {c : Char} {pieces : List Piece} {chars : List Char} (rest : MakeUp pieces chars) :
      MakeUp (.unit c.toNat :: pieces) (c :: chars)
  | pair {high low : Nat} {c : Char} {pieces : List Piece} {chars : List Char} (first : 0xD800 ≤ high ∧ high ≤ 0xDBFF)
      (second : 0xDC00 ≤ low ∧ low ≤ 0xDFFF) (code : c.toNat = 0x10000 + (high - 0xD800) * 0x400 + (low - 0xDC00))
      (rest : MakeUp pieces chars) : MakeUp (.unit high :: .unit low :: pieces) (c :: chars)

def IsText (content : String) (chars : List Char) : Prop :=
  ∃ pieces, IsQuoted pieces chars ∧ MakeUp pieces content.toList

def IsDigits (chars : List Char) : Prop := chars ≠ [] ∧ ∀ c ∈ chars, c.isDigit = true

def IsWhole (chars : List Char) : Prop := IsDigits chars ∧ (chars.head? = some '0' → chars = ['0'])

inductive IsFraction : List Char → Prop
  | none : IsFraction []
  | some {digits : List Char} (filled : IsDigits digits) : IsFraction ('.' :: digits)

inductive IsExponent : List Char → Prop
  | none : IsExponent []
  | some {mark : Char} {sign digits : List Char} (marked : mark = 'e' ∨ mark = 'E')
      (signed : sign = [] ∨ sign = ['+'] ∨ sign = ['-']) (filled : IsDigits digits) :
      IsExponent (mark :: sign ++ digits)

inductive IsNumeral : List Char → Prop
  | of {sign whole fraction exponent : List Char} (signed : sign = [] ∨ sign = ['-']) (wholly : IsWhole whole)
      (broken : IsFraction fraction) (scaled : IsExponent exponent) :
      IsNumeral (sign ++ (whole ++ fraction ++ exponent))

def Blanks (chars : List Char) : Prop := ∀ c ∈ chars, c = ' ' ∨ c = '\t' ∨ c = '\n' ∨ c = '\r'

def IsMark (mark : Char) (chars : List Char) : Prop :=
  ∃ before after, Blanks before ∧ Blanks after ∧ chars = before ++ mark :: after

inductive Separated : List (List Char) → List Char → Prop
  | nothing : Separated [] []
  | one {part : List Char} : Separated [part] part
  | more {part next comma chars : List Char} {parts : List (List Char)} (mark : IsMark ',' comma)
      (rest : Separated (next :: parts) chars) : Separated (part :: next :: parts) (part ++ comma ++ chars)

structure Written where
  pieces : List Piece
  name : List Char
  colon : List Char
  value : List Char

def Written.chars (member : Written) : List Char := member.name ++ member.colon ++ member.value

inductive IsValue : List Char → Prop
  | text {pieces : List Piece} {chars : List Char} (quoted : IsQuoted pieces chars) : IsValue chars
  | numeral {chars : List Char} (numeral : IsNumeral chars) : IsValue chars
  | word {word : String} (known : word ∈ ["true", "false", "null"]) : IsValue word.toList
  | list {opening inside closing : List Char} {items : List (List Char)} (opens : IsMark '[' opening)
      (separated : Separated items inside) (closes : IsMark ']' closing) (each : ∀ item ∈ items, IsValue item) :
      IsValue (opening ++ inside ++ closing)
  | object {opening inside closing : List Char} {members : List Written} (opens : IsMark '\x7b' opening)
      (separated : Separated (members.map Written.chars) inside) (closes : IsMark '\x7d' closing)
      (names : ∀ member ∈ members, IsQuoted member.pieces member.name)
      (colons : ∀ member ∈ members, IsMark ':' member.colon) (values : ∀ member ∈ members, IsValue member.value) :
      IsValue (opening ++ inside ++ closing)

def IsList (items : List (List Char)) (chars : List Char) : Prop :=
  ∃ opening inside closing, IsMark '[' opening ∧ Separated items inside ∧ IsMark ']' closing ∧
    (∀ item ∈ items, IsValue item) ∧ chars = opening ++ inside ++ closing

def IsMember (member : String × List Char) (chars : List Char) : Prop :=
  ∃ name colon, IsText member.1 name ∧ IsMark ':' colon ∧ IsValue member.2 ∧ chars = name ++ colon ++ member.2

def IsObject (members : List (String × List Char)) (chars : List Char) : Prop :=
  ∃ opening parts inside closing, IsMark '\x7b' opening ∧ List.Forall₂ IsMember members parts ∧
    Separated parts inside ∧ IsMark '\x7d' closing ∧ chars = opening ++ inside ++ closing

variable {chars : List Char} {content : String} {items parts : List (List Char)} {members : List (String × List Char)}

theorem IsText.isValue (text : IsText content chars) : IsValue chars := by
  obtain ⟨pieces, quoted, -⟩ := text
  exact .text quoted

structure Written.Formed (member : Written) : Prop where
  name : IsQuoted member.pieces member.name
  colon : IsMark ':' member.colon
  value : IsValue member.value

def Written.States (stated : String × List Char) (member : Written) : Prop :=
  MakeUp member.pieces stated.1.toList ∧ member.value = stated.2

theorem exists_written (each : List.Forall₂ IsMember members parts) :
    ∃ written : List Written, parts = written.map Written.chars ∧ (∀ member ∈ written, member.Formed) ∧
      List.Forall₂ Written.States members written := by
  induction each with
  | nil => exact ⟨[], rfl, nofun, .nil⟩
  | @cons stated _ _ _ first _ ih =>
    obtain ⟨name, colon, ⟨pieces, quoted, made⟩, marked, value, rfl⟩ := first
    obtain ⟨written, rfl, formed, states⟩ := ih
    let member : Written := ⟨pieces, name, colon, stated.2⟩
    have both : ∀ m ∈ member :: written, m.Formed := List.forall_mem_cons.mpr ⟨⟨quoted, marked, value⟩, formed⟩
    exact ⟨member :: written, rfl, both, .cons ⟨made, rfl⟩ states⟩

theorem IsObject.isValue (object : IsObject members chars) : IsValue chars := by
  obtain ⟨opening, _, inside, closing, opens, each, separated, closes, rfl⟩ := object
  obtain ⟨written, rfl, formed, -⟩ := exists_written each
  exact .object opens separated closes (fun member inside => (formed member inside).name)
    (fun member inside => (formed member inside).colon) fun member inside => (formed member inside).value

end TagMenu.Json
