import TagMenu.Shell.Token

namespace TagMenu.Shell

structure Pending where
  number : Nat
  ending : Octets
  dropTabs : Bool
  literal : Bool

structure Input where
  rest : Octets
  line : Nat := 1
  token? : Option Token := none
  pending : List Pending := []
  documents : List (Nat × Word) := []
  nextDocument : Nat := 0
  aliases : List (Octets × Octets) := []
  replaced : List (Octets × Nat) := []

abbrev Reader := StateT Input (Except (Nat × Fault))

def fail {α : Type} (fault : Fault) : Reader α := do throw ((← get).line, fault)

def take : Reader (Option Char) :=
  modifyGet fun input =>
    match input.rest with
    | [] => (none, input)
    | c :: rest =>
      (some c, { input with rest, line := if c = '\n' then input.line + 1 else input.line })

def putBack (c? : Option Char) : Reader Unit :=
  modify fun input =>
    match c? with
    | none => input
    | some c =>
      { input with
        rest := c :: input.rest
        line := if c = '\n' then input.line - 1 else input.line }

def dropJoins : Octets → Nat → Octets × Nat
  | '\\' :: '\n' :: rest, line => dropJoins rest (line + 1)
  | rest, line => (rest, line)

def takeJoined : Reader (Option Char) := do
  modify fun input =>
    let (rest, line) := dropJoins input.rest input.line
    { input with rest, line }
  take

def dropBlanks : Octets → Nat → Octets × Nat
  | ' ' :: rest, line => dropBlanks rest line
  | '\t' :: rest, line => dropBlanks rest line
  | '\\' :: '\n' :: rest, line => dropBlanks rest (line + 1)
  | rest, line => (rest, line)

def skipBlanks : Reader Unit :=
  modify fun input =>
    let (rest, line) := dropBlanks input.rest input.line
    match rest with
    | '#' :: comment => { input with rest := comment.dropWhile (· != '\n'), line }
    | rest => { input with rest, line }

def unread (token : Token) : Reader Unit := modify fun input => { input with token? := some token }

def Input.alias? (input : Input) (text : Octets) : Option Octets :=
  if input.replaced.any fun (name, left) => name = text && left ≤ input.rest.length then none
  else input.aliases.lookup text

def replace (name text : Octets) : Reader Unit :=
  modify fun input =>
    { input with
      rest := text ++ input.rest
      replaced := (name, input.rest.length) :: input.replaced }

inductive Manner where
  | plain
  | single
  | double
  | formula
deriving DecidableEq, Repr

structure Frame where
  manner : Manner
  quoted : Bool := false
  innerQuoted : Bool := false
  inBrace : Bool := false
  braces : Nat := 0
  quotedBraces : Nat := 0
  brackets : Nat := 0

inductive Scrap where
  | letter (quoted : Bool) (c : Char)
  | quote
  | parameter (quoted : Bool) (name : Octets)
  | output (quoted : Bool) (body : Body)
  | openEdit (quoted : Bool) (name : Octets) (edit : Word → Edit)
  | openFormula (quoted : Bool)
  | close

/-- A word in which all arguments, alone between quotes, have no quotes around them: there may be no
    arguments, and then there is no word. Quotes may be open before it. -/
def bareArguments : Bool → Word → Word
  | _, [] => []
  | false, .quote :: .parameter true ['@'] .keep :: .quote :: rest =>
    .parameter true ['@'] .keep :: bareArguments false rest
  | inside, .quote :: rest => .quote :: bareArguments (!inside) rest
  | inside, piece :: rest => piece :: bareArguments inside rest

/-- The pieces that scraps make up, as far as they go before a close, and the scraps after it; there
    are at most `bound` of them. -/
def assemble : Nat → List Scrap → Word × List Scrap
  | 0, _ => ([], [])
  | _ + 1, [] => ([], [])
  | _ + 1, .close :: rest => ([], rest)
  | bound + 1, scrap :: rest =>
    let (piece, rest) := match scrap with
      | .letter quoted c => (Piece.letter quoted c, rest)
      | .parameter quoted name => (.parameter quoted name .keep, rest)
      | .output quoted body => (.output quoted body, rest)
      | .openEdit quoted name edit =>
        let (word, rest) := assemble bound rest
        (.parameter quoted name (edit (bareArguments false word)), rest)
      | .openFormula quoted =>
        let (word, rest) := assemble bound rest
        (.formula quoted word, rest)
      | .quote | .close => (.quote, rest)
    let (pieces, rest) := assemble bound rest
    (piece :: pieces, rest)

structure Draft where
  frame : Frame
  outer : List Frame := []
  reversed : List Scrap := []
  quotes : Bool := false

namespace Draft

def ofManner (manner : Manner) : Draft := { frame := { manner, quoted := manner = .double } }

def add (draft : Draft) (scrap : Scrap) : Draft :=
  { draft with reversed := scrap :: draft.reversed }

def letter (draft : Draft) (c : Char) : Draft :=
  draft.add (.letter (draft.frame.manner = .single || draft.frame.manner = .double) c)

def escaped (draft : Draft) (c : Char) : Draft := { draft.add (.letter true c) with quotes := true }

def enter (draft : Draft) (frame : Frame) : Draft :=
  { draft with frame, outer := draft.frame :: draft.outer }

def leave (draft : Draft) : Draft :=
  match draft.outer with
  | [] => draft
  | frame :: outer => { draft with frame, outer }

def word (draft : Draft) : Word :=
  bareArguments false (assemble (draft.reversed.length + 1) draft.reversed.reverse).1

def fault? (draft : Draft) (isDocument : Bool) : Option Fault :=
  if draft.frame.manner = .formula then some .openFormula
  else if draft.frame.manner != .plain && !isDocument then some .openQuote
  else if draft.frame.braces != 0 then some .openBrace
  else none

def descriptor? (draft : Draft) (usual : Nat) : Option Nat :=
  match draft.reversed with
  | [] => some usual
  | [.letter false c] => Text.decimalValue? c
  | _ => none

end Draft

inductive Purpose where
  | word
  | ending
  | document (pending : Pending)

def Purpose.isDocument : Purpose → Bool
  | document _ => true
  | _ => false

def Purpose.isEnding : Purpose → Bool
  | ending => true
  | _ => false

def afterLine? (ending : Octets) (text : Octets) : Option Octets :=
  if ending.isPrefixOf text then
    match text.drop ending.length with
    | [] => some []
    | '\n' :: rest => some rest
    | _ => none
  else none

def startLine (purpose : Purpose) (first? : Option Char) : Reader (Option Char) := do
  match purpose with
  | .document pending =>
    putBack first?
    let text := (← get).rest
    let text := if pending.dropTabs then text.dropWhile (· == '\t') else text
    match afterLine? pending.ending text with
    | some rest =>
      modify fun input => { input with rest, line := input.line + 1 }
      return none
    | none =>
      modify fun input => { input with rest := text }
      take
  | _ => return first?

namespace Draft

def openQuote (draft : Draft) (purpose : Purpose) (manner : Manner) : Draft :=
  let frame := draft.frame
  let frame := if manner = .double then
      { frame with
        manner
        quoted := true
        innerQuoted := frame.innerQuoted != (frame.braces != 0) }
    else { frame with manner }
  let draft := { draft with frame }
  if purpose.isDocument then draft else draft.add .quote

def closeQuote (draft : Draft) (purpose : Purpose) (c : Char) : Draft :=
  let frame := draft.frame
  if purpose.isDocument && frame.braces = 0 then draft.letter c
  else
    let frame := if frame.quotedBraces = 0 then { frame with manner := .plain, quoted := false }
      else frame
    let frame := if c = '"' then
        { frame with innerQuoted := frame.innerQuoted != (frame.braces != 0) }
      else frame
    let draft := { draft with frame, quotes := true }
    if purpose.isDocument then draft else draft.add .quote

def closeBrace (draft : Draft) : Draft :=
  let frame := draft.frame
  if frame.innerQuoted || frame.braces = 0 then draft.letter '\x7d'
  else
    let frame := { frame with braces := frame.braces - 1 }
    if frame.braces = 0 && frame.inBrace then { draft with frame }.leave.add .close
    else { draft with frame := { frame with quotedBraces := frame.quotedBraces - 1 } }.add .close

def openEdit (draft : Draft) (name : Octets) (manner : Manner) (edit : Word → Edit) : Draft :=
  let manner := if manner = .formula then .double else manner
  let draft := draft.add (.openEdit draft.frame.quoted name edit)
  let draft := if manner != draft.frame.manner || draft.frame.innerQuoted then
      draft.enter { manner, quoted := manner != .plain, inBrace := true }
    else draft
  let frame := draft.frame
  { draft with
    frame := { frame with
      braces := frame.braces + 1
      quotedBraces := if frame.quoted then frame.quotedBraces + 1 else frame.quotedBraces } }

end Draft

def readEscape (purpose : Purpose) (draft : Draft) : Reader Draft := do
  match ← take with
  | none => return draft.add (.letter true '\\')
  | some c =>
    let inBrace := draft.frame.braces != 0
    let goes := ['\\', '\x60', '$'].contains c || c = '"' && !(purpose.isDocument && !inBrace)
      || c = '\x7d' && inBrace
    if draft.frame.quoted && !goes then return (draft.add (.letter true '\\')).escaped c
    else return draft.escaped c

def takeWhile (kind : Char → Bool) : Nat → Octets → Reader (Octets × Option Char)
  | 0, taken => return (taken.reverse, none)
  | bound + 1, taken => do
    match ← takeJoined with
    | some c => if kind c then takeWhile kind bound (c :: taken) else return (taken.reverse, some c)
    | none => return (taken.reverse, none)

def takeName (kind : Char → Bool) (first : Char) : Reader (Octets × Option Char) := do
  takeWhile kind ((← get).rest.length + 1) [first]

def readBareParameter (draft : Draft) (first : Char) : Reader Draft := do
  if isNameStart first then
    let (name, next?) ← takeName isNamePart first
    putBack next?
    return draft.add (.parameter draft.frame.quoted name)
  else return draft.add (.parameter draft.frame.quoted [first])

def editOf? (orEmpty : Bool) : Char → Option (Word → Edit)
  | '-' => some (.otherwise orEmpty)
  | '+' => some (.instead orEmpty)
  | '?' => some (.demand orEmpty)
  | '=' => some (.assign orEmpty)
  | '\x7d' => some fun _ => .keep
  | _ => none

def readTrim (draft : Draft) (name : Octets) (side : Side) (sign : Char) : Reader Draft := do
  let next? ← takeJoined
  if next? = some sign then return draft.openEdit name .plain (.trim side true)
  else
    putBack next?
    return draft.openEdit name .plain (.trim side false)

def readEdit (draft : Draft) (name : Octets) (next? : Option Char) : Reader Draft := do
  let manner := draft.frame.manner
  match next? with
  | some '\x7d' => return draft.add (.parameter draft.frame.quoted name)
  | some '%' => readTrim draft name .finish '%'
  | some '#' => readTrim draft name .start '#'
  | some ':' =>
    let next? ← takeJoined
    return draft.openEdit name manner ((next?.bind (editOf? true)).getD fun _ => .unknown)
  | next? => return draft.openEdit name manner ((next?.bind (editOf? false)).getD fun _ => .unknown)

def readLength (draft : Draft) (name : Octets) (next? : Option Char) : Reader Draft := do
  putBack next?
  let edit := if next? = some '\x7d' then Edit.length else .unknown
  return draft.openEdit name draft.frame.manner fun _ => edit

def readUnknown (draft : Draft) (next? : Option Char) : Reader Draft := do
  putBack next?
  return draft.openEdit [] draft.frame.manner fun _ => .unknown

def readBracedParameter (draft : Draft) : Reader Draft := do
  match ← takeJoined with
  | none => readUnknown draft none
  | some '\x7d' => readUnknown draft (some '\x7d')
  | some '#' =>
    match ← takeJoined with
    | none => readEdit draft ['#'] none
    | some c =>
      if isNamePart c then
        let (name, next?) ← takeName (if c.isDigit then Char.isDigit else isNamePart) c
        readLength draft name next?
      else
        let next? ← takeJoined
        if c = '\x7d' || next? != some '\x7d' then
          putBack next?
          readEdit draft ['#'] (some c)
        else if isSpecial c then readLength draft [c] next?
        else readUnknown draft next?
  | some c =>
    if isNamePart c then
      let (name, next?) ← takeName (if c.isDigit then Char.isDigit else isNamePart) c
      readEdit draft name next?
    else
      let next? ← takeJoined
      if isSpecial c then readEdit draft [c] next? else readUnknown draft next?

/-- The text up to a backquote, what follows it, and the line that is then reached. A backslash makes
    the next character one of the text; it stays itself before most characters. -/
def backquoted? (quoted : Bool) : Octets → Nat → Option (Octets × Octets × Nat)
  | [], _ => none
  | '\\' :: '\n' :: rest, line => backquoted? quoted rest (line + 1)
  | '\x60' :: rest, line => some ([], rest, line)
  | '\\' :: c :: rest, line =>
    (backquoted? quoted rest line).map fun (text, after) =>
      if ['\\', '\x60', '$'].contains c || quoted && c = '"' then (c :: text, after)
      else ('\\' :: c :: text, after)
  | c :: rest, line =>
    (backquoted? quoted rest (if c = '\n' then line + 1 else line)).map fun (text, after) =>
      (c :: text, after)

def takeBackquoted (quoted : Bool) : Reader Octets := do
  let input ← get
  match backquoted? quoted input.rest input.line with
  | some (text, rest, line) =>
    set { input with rest, line }
    return text
  | none => fail .openBackquote

def readDirection (sign : Char) : Reader Direction := do
  let next? ← takeJoined
  match sign, next? with
  | '>', some '>' => return .file .append
  | '>', some '|' => return .file (.write true)
  | '>', some '&' | '<', some '&' => return .copy
  | '<', some '>' => return .file .readWrite
  | '<', some '<' =>
    let next? ← takeJoined
    if next? = some '-' then return .document true
    putBack next?
    return .document false
  | '<', next? =>
    putBack next?
    return .file .read
  | _, next? =>
    putBack next?
    return .file (.write false)

end TagMenu.Shell
