import TagMenu.Pattern.Escape
import TagMenu.Unicode.Current

namespace TagMenu.Pattern

structure ClassPart where
  set : Charset
  depth : Nat

inductive SetOperator where
  | intersection
  | difference
  | symmetricDifference
deriving DecidableEq, Repr

structure OpenClass where
  negated : Bool
  pending : Option (ClassPart × SetOperator) := none
  parts : List ClassPart := []

structure Item where
  expr : Expr
  depth : Nat := 0
  repeatable : Bool := true

structure OpenGroup where
  flagsAfter : Flags
  captures : Bool
  branches : List Item := []
  items : List Item := []

/-- What has been read. -/
structure Reading where
  flags : Flags := {}
  names : List (List Char) := []
  group : OpenGroup := ⟨{}, false, [], []⟩
  outer : List OpenGroup := []
  classes : List OpenClass := []

def depthOf (depths : List Nat) : Nat := depths.foldl Nat.max 0

def Item.ofSequence (items : List Item) : Item :=
  match items with
  | [item] => { item with repeatable := true }
  | items =>
    ⟨.seqAll (items.reverse.map (·.expr)),
      if items.isEmpty then 0 else depthOf (items.map (·.depth)) + 1, true⟩

namespace OpenGroup

def push (group : OpenGroup) (item : Item) : OpenGroup := { group with items := item :: group.items }

def nextBranch (group : OpenGroup) : OpenGroup :=
  { group with branches := .ofSequence group.items :: group.branches, items := [] }

def content (group : OpenGroup) : Item :=
  let last := Item.ofSequence group.items
  if group.branches.isEmpty then last
  else
    let branches := last :: group.branches
    ⟨.altAll (branches.reverse.map (·.expr)), depthOf (branches.map (·.depth)) + 1, true⟩

def close (group : OpenGroup) : Item :=
  let content := group.content
  ⟨if group.captures then .group content.expr else content.expr, content.depth + 1, true⟩

def repeatLast (group : OpenGroup) (min : Nat) (max : Option Nat) : Except Fault OpenGroup :=
  match group.items with
  | [] => .error .nothingToRepeat
  | item :: items =>
    if item.repeatable then
      .ok { group with items := ⟨.iterate item.expr min max, item.depth + 1, true⟩ :: items }
    else .error .nothingToRepeat

end OpenGroup

namespace Reading

def push (reading : Reading) (expr : Expr) : Reading :=
  { reading with group := reading.group.push ⟨expr, 0, true⟩ }

def openGroup (reading : Reading) (captures : Bool) (flags : Flags) : Reading :=
  { reading with
    flags
    group := ⟨reading.flags, captures, [], []⟩
    outer := reading.group :: reading.outer }

def closeGroup (reading : Reading) : Except Fault Reading :=
  match reading.outer with
  | [] => .error .unopenedGroup
  | group :: outer =>
    .ok { reading with
      flags := reading.group.flagsAfter, group := group.push reading.group.close, outer }

def repeatLast (reading : Reading) (min : Nat) (max : Option Nat) : Except Fault Reading := do
  return { reading with group := ← reading.group.repeatLast min max }

end Reading

def dropLazyMark : List Char → List Char
  | '?' :: rest => rest
  | chars => chars

def isNameStart (c : Char) : Bool :=
  c == '_' || Unicode.Current.letters.contains c.toNat

def isNamePart (c : Char) : Bool :=
  c == '_' || c == '.' || c == '[' || c == ']' ||
    Unicode.Current.lettersAndNumbers.contains c.toNat

def readGroupName (chars : List Char) : Except Fault (List Char × List Char) :=
  let name := chars.takeWhile (· != '>')
  match chars.dropWhile (· != '>') with
  | [] => .error .badGroupName
  | _ :: rest =>
    if name.head?.any isNameStart && name.tail.all isNamePart then .ok (name, rest)
    else .error .badGroupName

def readNamedGroup (reading : Reading) (chars : List Char) : Except Fault (Reading × List Char) := do
  let (name, rest) ← readGroupName chars
  if reading.names.contains name then throw .repeatedGroupName
  return ({ reading with names := name :: reading.names }.openGroup true reading.flags, rest)

def readGroup (reading : Reading) (chars : List Char) : Except Fault (Reading × List Char) :=
  match skip reading.flags.extended chars with
  | '?' :: '=' :: _ | '?' :: '!' :: _ | '?' :: '<' :: '=' :: _ | '?' :: '<' :: '!' :: _ =>
    .error .unsupportedLookAround
  | '?' :: 'P' :: '<' :: rest | '?' :: '<' :: rest => readNamedGroup reading rest
  | '?' :: rest => do
    let (list, last, rest) ← FlagList.read {} rest
    let flags := list.apply reading.flags
    if last = ':' then return (reading.openGroup false flags, rest)
    else if list.isEmpty then throw .missingFlags
    else
      return ({ reading with flags, group := reading.group.push ⟨.empty, 0, false⟩ }, rest)
  | rest => .ok (reading.openGroup true reading.flags, rest)

def readNegation : List Char → Bool × List Char
  | '^' :: rest => (true, rest)
  | chars => (false, chars)

namespace ClassPart

def ofUnion (parts : List ClassPart) : ClassPart :=
  match parts with
  | [] => ⟨.empty, 0⟩
  | [part] => part
  | parts => ⟨.unionAll (parts.reverse.map (·.set)), depthOf (parts.map (·.depth)) + 1⟩

/-- Two parts with an operator between them. Both are closed under case before they are joined. -/
def join (flags : Flags) (left : ClassPart) (operator : SetOperator) (right : ClassPart) :
    ClassPart :=
  let close (set : Charset) := if flags.caseless then .caseless (!flags.unicode) set else set
  let set := match operator with
    | .intersection => Charset.intersection (close left.set) (close right.set)
    | .difference => .difference (close left.set) (close right.set)
    | .symmetricDifference => .symmetricDifference (close left.set) (close right.set)
  ⟨set, Nat.max left.depth right.depth + 1⟩

end ClassPart

namespace OpenClass

def push (cls : OpenClass) (part : ClassPart) : OpenClass := { cls with parts := part :: cls.parts }

def content (flags : Flags) (cls : OpenClass) : ClassPart :=
  let last := ClassPart.ofUnion cls.parts
  match cls.pending with
  | none => last
  | some (left, operator) => left.join flags operator last

def operate (flags : Flags) (cls : OpenClass) (operator : SetOperator) : OpenClass :=
  { cls with pending := some (cls.content flags, operator), parts := [] }

def close (flags : Flags) (cls : OpenClass) : Except Fault ClassPart := do
  let content := cls.content flags
  return ⟨← finishSet flags cls.negated content.set, content.depth + 1⟩

def readHyphens (extended : Bool) (inComment : Bool) (cls : OpenClass) :
    List Char → OpenClass × List Char
  | [] => (cls, [])
  | c :: rest =>
    if inComment then readHyphens extended (c != '\n') cls rest
    else if extended && Text.isBlank c then readHyphens extended false cls rest
    else if extended && c = '#' then readHyphens extended true cls rest
    else if c = '-' then readHyphens extended false (cls.push ⟨.single '-', 0⟩) rest
    else (cls, c :: rest)

/-- Opens a class, after its opening bracket. A bracket that would close it at once is a member. -/
def start (extended : Bool) (chars : List Char) : OpenClass × List Char :=
  let negation := readNegation (skip extended chars)
  let opened := readHyphens extended false ⟨negation.1, none, []⟩ negation.2
  match opened.2 with
  | ']' :: rest => if opened.1.parts.isEmpty then (opened.1.push ⟨.single ']', 0⟩, rest) else opened
  | _ => opened

end OpenClass

def readAsciiClass? (chars : List Char) : Option (Charset × Bool × List Char) :=
  match chars with
  | ':' :: rest =>
    let negation := readNegation rest
    let name := negation.2.takeWhile (· != ':')
    match negation.2.dropWhile (· != ':') with
    | ':' :: ']' :: rest =>
      (Charset.asciiClass? (String.ofList name)).map fun set => (set, negation.1, rest)
    | _ => none
  | _ => none

def memberChar (flags : Flags) (c : Char) : Except Fault Nat :=
  if !flags.unicode && c.toNat > 0x7F then .error .notAscii else .ok c.toNat

def readMember (flags : Flags) (c : Char) (rest : List Char) : Except Fault (Atom × List Char) :=
  if c = '\\' then readEscape flags rest else .ok (.char c false, rest)

def rangeEnd? (extended : Bool) (chars : List Char) : Option (List Char) :=
  match skip extended chars with
  | '-' :: rest =>
    match peek? extended rest with
    | some ']' | some '-' => none
    | _ => some (skip extended rest)
  | _ => none

def readMembers (flags : Flags) (c : Char) (rest : List Char) :
    Except Fault (ClassPart × List Char) := do
  let (atom, rest) ← readMember flags c rest
  match rangeEnd? flags.extended rest with
  | some [] => throw .unclosedClass
  | some (c :: after) =>
    let (last, rest) ← readMember flags c after
    match atom, last with
    | .char low _, .char high _ =>
      if high < low then throw .reversedRange
      return (⟨.range (← memberChar flags low) (← memberChar flags high), 0⟩, rest)
    | _, _ => throw .badRangeEnd
  | none =>
    match atom with
    | .char c _ =>
      let code ← memberChar flags c
      return (⟨.range code code, 0⟩, rest)
    | .set set => return (⟨set, 0⟩, rest)
    | .look _ => throw .badClassMember

namespace Reading

def openClass (reading : Reading) (chars : List Char) : Reading × List Char :=
  let (cls, rest) := OpenClass.start reading.flags.extended chars
  ({ reading with classes := cls :: reading.classes }, rest)

def closeClass (reading : Reading) (cls : OpenClass) (outer : List OpenClass) :
    Except Fault Reading := do
  let part ← cls.close reading.flags
  match outer with
  | [] =>
    return { reading with
      classes := [], group := reading.group.push ⟨.set part.set, part.depth, true⟩ }
  | next :: more => return { reading with classes := next.push part :: more }

def stepInClass (reading : Reading) (cls : OpenClass) (outer : List OpenClass) (c : Char)
    (rest : List Char) : Except Fault (Reading × List Char) :=
  let within (cls : OpenClass) : Reading := { reading with classes := cls :: outer }
  let members : Except Fault (Reading × List Char) := do
    let (part, rest) ← readMembers reading.flags c rest
    return (within (cls.push part), rest)
  match c, rest with
  | '[', rest =>
    match readAsciiClass? rest with
    | some (set, negated, rest) => do
      let set ← finishSet reading.flags negated set
      return (within (cls.push ⟨set, 0⟩), rest)
    | none => .ok (reading.openClass rest)
  | ']', rest => do return (← reading.closeClass cls outer, rest)
  | '&', '&' :: rest => .ok (within (cls.operate reading.flags .intersection), rest)
  | '-', '-' :: rest => .ok (within (cls.operate reading.flags .difference), rest)
  | '~', '~' :: rest => .ok (within (cls.operate reading.flags .symmetricDifference), rest)
  | _, _ => members

def charExpr (flags : Flags) (c : Char) (octet : Bool) : Except Fault Expr :=
  if octet && !flags.unicode && c.toNat > 0x7F then .error .notAscii
  else if flags.caseless then .ok (.set (.caseless (!flags.unicode) (.single c)))
  else .ok (.char c)

def dotExpr (flags : Flags) : Except Fault Expr :=
  if !flags.unicode then .error .notAscii
  else if flags.dotAll then .ok (.set .anyChar)
  else if flags.crlf then .ok (.set (.complement (.union (.single '\r') (.single '\n'))))
  else .ok (.set (.complement (.single '\n')))

def stepOutside (reading : Reading) (c : Char) (rest : List Char) :
    Except Fault (Reading × List Char) :=
  let flags := reading.flags
  match c with
  | '(' => readGroup reading rest
  | ')' => do return (← reading.closeGroup, rest)
  | '|' => .ok ({ reading with group := reading.group.nextBranch }, rest)
  | '[' => .ok (reading.openClass rest)
  | '?' => do return (← reading.repeatLast 0 (some 1), dropLazyMark rest)
  | '*' => do return (← reading.repeatLast 0 none, dropLazyMark rest)
  | '+' => do return (← reading.repeatLast 1 none, dropLazyMark rest)
  | '\x7b' => do
    let ((min, max), rest) ← readBounds flags.extended rest
    return (← reading.repeatLast min max, dropLazyMark (skip flags.extended rest))
  | '.' => do return (reading.push (← dotExpr flags), rest)
  | '^' =>
    .ok (reading.push (.look (if flags.multiLine then .lineStart flags.crlf else .textStart)), rest)
  | '$' =>
    .ok (reading.push (.look (if flags.multiLine then .lineEnd flags.crlf else .textEnd)), rest)
  | '\\' => do
    let (atom, rest) ← readEscape flags rest
    match atom with
    | .char c octet => return (reading.push (← charExpr flags c octet), rest)
    | .set set => return (reading.push (.set set), rest)
    | .look condition => return (reading.push (.look condition), rest)
  | c => do return (reading.push (← charExpr flags c false), rest)

/-- One step: `c` is the next character, and not all that follows it need be left. -/
def step (reading : Reading) (c : Char) (rest : List Char) : Except Fault (Reading × List Char) :=
  match reading.classes with
  | [] => reading.stepOutside c rest
  | cls :: outer => reading.stepInClass cls outer c rest

end Reading

end TagMenu.Pattern
