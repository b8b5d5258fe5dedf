import TagMenu.Shell.Field
import TagMenu.Shell.Script

namespace TagMenu.Shell

inductive Class where
  | alnum
  | alpha
  | blank
  | cntrl
  | digit
  | graph
  | lower
  | print
  | punct
  | space
  | upper
  | xdigit
deriving DecidableEq, Repr

namespace Class

def name : Class → String
  | alnum => "alnum"
  | alpha => "alpha"
  | blank => "blank"
  | cntrl => "cntrl"
  | digit => "digit"
  | graph => "graph"
  | lower => "lower"
  | print => "print"
  | punct => "punct"
  | space => "space"
  | upper => "upper"
  | xdigit => "xdigit"

def all : List Class :=
  [alnum, alpha, blank, cntrl, digit, graph, lower, print, punct, space, upper, xdigit]

def isGraphic (c : Char) : Bool := '!' ≤ c && c ≤ '~'

def contains : Class → Char → Bool
  | alnum, c => c.isAlphanum
  | alpha, c => c.isAlpha
  | blank, c => c = ' ' || c = '\t'
  | cntrl, c => c < ' ' || c = '\x7f'
  | digit, c => c.isDigit
  | graph, c => isGraphic c
  | lower, c => c.isLower
  | print, c => isGraphic c || c = ' '
  | punct, c => isGraphic c && !c.isAlphanum
  | space, c => Octets.isSpace c
  | upper, c => c.isUpper
  | xdigit, c => (Text.hexValue? c).isSome

end Class

inductive Member where
  | range (low high : Char)
  | class_ (kind : Class)
deriving DecidableEq, Repr

inductive Tile where
  | letter (c : Char)
  | any
  | many
  | bracket (inverted : Bool) (members : List Member)
deriving DecidableEq, Repr

abbrev Form := List Tile

def signed (c : Char) : Int := if c.toNat < 128 then c.toNat else c.toNat - 256

def Member.contains : Member → Char → Bool
  | range low high, c => signed low ≤ signed c && signed c ≤ signed high
  | class_ kind, c => kind.contains c

def Form.matches : Form → Octets → Bool
  | [], text => text.isEmpty
  | .many :: form, text =>
    (List.range (text.length + 1)).any fun i => Form.matches form (text.drop i)
  | _ :: _, [] => false
  | .letter c :: form, d :: text => c = d && Form.matches form text
  | .any :: form, _ :: text => Form.matches form text
  | .bracket inverted members :: form, c :: text =>
    members.any (·.contains c) != inverted && Form.matches form text

structure Sign where
  c : Char
  literal : Bool
deriving DecidableEq, Repr

/-- The signs of a form. A backslash that is not quoted makes the next character stand for itself. -/
def signsOf : List Cell → List Sign
  | [] => []
  | .quote :: rest | .gap :: rest => signsOf rest
  | .letter true c :: rest => ⟨c, true⟩ :: signsOf rest
  | .letter false '\\' :: .letter _ c :: rest => ⟨c, true⟩ :: signsOf rest
  | .letter false c :: rest => ⟨c, false⟩ :: signsOf rest

def class? (signs : List Sign) : Option (Class × List Sign) :=
  let text := (signs.takeWhile fun sign => !sign.literal).map (·.c)
  (Class.all.find? fun kind => (":" ++ kind.name ++ ":]").toList.isPrefixOf text).map fun kind =>
    (kind, signs.drop (kind.name.length + 3))

/-- The members of a bracket and what follows it, nothing if it is never closed. A closing bracket is
    a member where it comes first. There are at most `bound` signs. -/
def members? (isFirst : Bool) : Nat → List Sign → Option (List Member × List Sign)
  | 0, _ | _ + 1, [] => none
  | bound + 1, sign :: rest =>
    if sign = ⟨']', false⟩ && !isFirst then some ([], rest)
    else
      let (member, rest) :=
        match (if sign = ⟨'[', false⟩ then class? rest else none), rest with
        | some (kind, rest), _ => (Member.class_ kind, rest)
        | none, ⟨'-', false⟩ :: high :: after =>
          if high = ⟨']', false⟩ then (.range sign.c sign.c, rest)
          else (.range sign.c high.c, after)
        | none, rest => (.range sign.c sign.c, rest)
      (members? false bound rest).map fun (members, rest) => (member :: members, rest)

def bracket? : List Sign → Option (Tile × List Sign)
  | ⟨'!', false⟩ :: rest =>
    (members? true (rest.length + 1) rest).map fun (members, rest) => (.bracket true members, rest)
  | signs =>
    (members? true (signs.length + 1) signs).map fun (members, rest) =>
      (.bracket false members, rest)

def tiles : Nat → List Sign → Form
  | 0, _ | _ + 1, [] => []
  | bound + 1, sign :: rest =>
    let plain := Tile.letter sign.c :: tiles bound rest
    if sign.literal then plain
    else
      match sign.c with
      | '*' => .many :: tiles bound rest
      | '?' => .any :: tiles bound rest
      | '[' =>
        match bracket? rest with
        | some (tile, rest) => tile :: tiles bound rest
        | none => plain
      | _ => plain

def Form.ofSigns (signs : List Sign) : Form := tiles (signs.length + 1) signs

def Form.ofCells (cells : List Cell) : Form := .ofSigns (signsOf cells)

def isVaried : List Sign → Bool
  | [] => false
  | ⟨c, literal⟩ :: rest =>
    !literal && (c = '*' || c = '?' || c = '[' && (bracket? rest).isSome) || isVaried rest

def argumentEnd : Char := '\x00'

/-- A text without what has a form at one side: the longest such part, or the shortest. Of arguments that
    follow one another, what is compared with the form ends where an argument does, and the cut is
    looked for from the start to the end of the first one, or from the end to the start. -/
def trim (side : Side) (longest : Bool) (form : Form) (text : Octets) : Octets :=
  let first (text : Octets) := text.takeWhile (· != argumentEnd)
  let fits (cut : Nat) := form.matches (first (match side with
    | .start => text.take cut
    | .finish => text.drop cut))
  let fromEnd := longest == (side = .start)
  let cuts :=
    if fromEnd then (List.range (text.length + 1)).reverse
    else List.range ((first text).length + 1)
  match side, cuts.find? fits with
  | .start, some cut => text.drop cut
  | .finish, some cut => text.take cut
  | _, none => text

end TagMenu.Shell
