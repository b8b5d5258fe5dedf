import TagMenu.Shell.Arithmetic
import TagMenu.Shell.Form
import TagMenu.Shell.Session

namespace TagMenu.Shell

variable {m : Type → Type} [Monad m]

structure Expander (m : Type → Type) where
  files : Files m
  output : Body → Run m Octets

structure Expansion where
  cut : Bool := false
  loose : Bool := false
  tilde : Bool := false
  afterEquals : Bool := false
  afterColons : Bool := false
  passed : Nat := 0

namespace Expansion

def ofWord : Expansion := { cut := true, tilde := true }

def ofText : Expansion := { tilde := true }

def ofAssignment : Expansion := { afterEquals := true }

/-- After a character that is not quoted. -/
def after (how : Expansion) (c : Char) : Expansion :=
  if c = '=' && how.afterEquals then
    { how with tilde := true, afterEquals := false, afterColons := true }
  else { how with tilde := c = ':' && how.afterColons }

end Expansion

structure Product where
  reversed : List Stretch := []
  isOpen : Bool := false

namespace Product

def addCell (product : Product) (cutting : Cutting) (cell : Cell) : Product :=
  match product.isOpen, product.reversed with
  | true, stretch :: rest =>
    if stretch.cutting = cutting then
      { product with reversed := { stretch with cells := cell :: stretch.cells } :: rest }
    else { product with reversed := ⟨cutting, [cell]⟩ :: product.reversed }
  | _, _ => ⟨⟨cutting, [cell]⟩ :: product.reversed, true⟩

def addAll (product : Product) (stretches : List Stretch) : Product where
  reversed := stretches.foldl (fun reversed stretch =>
    { stretch with cells := stretch.cells.reverse } :: reversed) product.reversed

def stretches (product : Product) : List Stretch :=
  product.reversed.reverse.map fun stretch => { stretch with cells := stretch.cells.reverse }

def text (product : Product) : Octets := textOf (cellsOf product.stretches)

end Product

def tildeName? (colonEnds : Bool) : Word → Option Octets
  | [] => some []
  | .letter false c :: rest =>
    if c = '/' || c = ':' && colonEnds then some []
    else (tildeName? colonEnds rest).map (c :: ·)
  | _ :: _ => none

def homeOf? (name? : Option Octets) : Run m (Option Octets) := do
  match name? with
  | some [] => return (← session).valueOf "HOME"
  | some ['r', 'o', 'o', 't'] => return some "/root".toList
  | _ => return none

def lettersIn (quoted : Bool) (text : Octets) : List Cell := text.map (.letter quoted)

def joinArguments (quoted gaps : Bool) : Run m (List Cell) := do
  let s ← session
  let separator := match s.valueOf "IFS" with
    | none => [Cell.letter quoted ' ']
    | some text => lettersIn quoted (text.take 1)
  let between := if gaps then [Cell.gap] else separator
  return ((s.arguments.map (lettersIn quoted)).intersperse between).flatten

def valueOf? (quoted cut : Bool) (name : Octets) : Run m (Option (List Cell)) := do
  let s ← session
  let text (text : Octets) : Option (List Cell) := some (lettersIn quoted text)
  match name with
  | ['@'] => return some (← joinArguments quoted cut)
  | ['*'] => return some (← joinArguments quoted (cut && !quoted))
  | ['#'] => return text (Octets.ofInt s.arguments.length)
  | ['?'] => return text (Octets.ofInt s.status)
  | ['$'] => return text (Octets.ofInt s.process)
  | ['!'] => return s.lastBackground.bind fun process => text (Octets.ofInt process)
  | ['-'] => return text ((s.switches.mergeSort fun a b =>
      (Switch.all.idxOf b) ≤ (Switch.all.idxOf a)).filterMap Switch.letter?)
  | name =>
    if name.all Char.isDigit && !name.isEmpty then
      match Text.numeral 10 (name.filterMap Text.decimalValue?) with
      | 0 => return text s.name
      | position + 1 => return s.arguments[position]?.bind text
    else return (s.value? name).bind text

def resultStretch (quoted : Bool) (text : Octets) : Stretch :=
  ⟨if quoted then .nothing else .separators, lettersIn quoted text⟩

def cuttingOf (quoted : Bool) (name : Octets) : Run m Cutting := do
  if !quoted then return .separators
  else if name = ['@'] && !(← session).arguments.isEmpty then return .gaps
  else return .nothing

def unsetMessage (orEmpty : Bool) : Octets :=
  (if orEmpty then "parameter not set or null" else "parameter not set").toList

def refuseUnset {α : Type} (expander : Expander m) (name text : Octets) : Run m α :=
  refuse expander.files (name ++ ": ".toList ++ text)

def unsetValue (expander : Expander m) (name : Octets) : Run m (List Stretch) := do
  if (← session).has .nounset then refuseUnset expander name (unsetMessage false)
  return []

def Cell.octet : Cell → Char
  | letter _ c => c
  | quote | gap => argumentEnd

def trimCells (side : Side) (longest : Bool) (form : Form) (cells : List Cell) : List Cell :=
  let left := (trim side longest form (cells.map Cell.octet)).length
  match side with
  | .start => cells.drop (cells.length - left)
  | .finish => cells.take left

def formulaScope (files : Files m) (text : Octets) : FormulaScope (Run m) where
  value name := do
    let value := ((← session).value? name).getD []
    match wholeNumber? false value with
    | some number => return number
    | none => refuse files ("Illegal number: ".toList ++ value)
  assign name value := assign files name (Octets.ofInt value)
  refuse fault :=
    refuse files
      (("arithmetic expression: " ++ fault.message ++ ": \"").toList ++ text ++ ['"'])

def evaluate (files : Files m) (text : Octets) : Run m Int :=
  (Formula.parse text).evaluate (formulaScope files text) true

mutual

def expandPieces (expander : Expander m) (how : Expansion) (product : Product) :
    Word → Run m Product
  | [] => return product
  | .letter quoted c :: rest => do
    if how.passed != 0 then
      expandPieces expander { how with passed := how.passed - 1 } product rest
    else
      let name? := if how.tilde && !quoted && c = '~' then tildeName? how.afterColons rest else none
      match ← homeOf? name? with
      | some home =>
        let product := product.addAll [⟨.nothing, lettersIn true home⟩]
        let passed := (name?.map List.length).getD 0
        expandPieces expander { how with tilde := false, passed } product rest
      | none =>
        let cutting := if how.loose && !quoted then Cutting.separators else .nothing
        let how := if quoted then { how with tilde := false } else how.after c
        expandPieces expander how (product.addCell cutting (.letter quoted c)) rest
  | .quote :: rest =>
    expandPieces expander { how with tilde := false } (product.addCell .nothing .quote) rest
  | .parameter quoted name edit :: rest => do
    let stretches ← expandParameter expander how quoted name edit
    expandPieces expander { how with tilde := false } (product.addAll stretches) rest
  | .output quoted body :: rest => do
    let stretch := resultStretch quoted (← expander.output body)
    expandPieces expander { how with tilde := false } (product.addAll [stretch]) rest
  | .formula quoted word :: rest => do
    let inner ← expandPieces expander {} {} word
    let value ← evaluate expander.files inner.text
    let stretch := resultStretch quoted (Octets.ofInt value)
    expandPieces expander { how with tilde := false } (product.addAll [stretch]) rest

def expandParameter (expander : Expander m) (how : Expansion) (quoted : Bool) (name : Octets)
    (edit : Edit) : Run m (List Stretch) := do
  let value? ← valueOf? quoted how.cut name
  let cutting ← cuttingOf quoted name
  let kept (orEmpty : Bool) := value?.filter fun cells => !(orEmpty && cells.isEmpty)
  let within := { how with loose := !quoted, tilde := true }
  match edit with
  | .keep =>
    match value? with
    | some cells => return [⟨cutting, cells⟩]
    | none => unsetValue expander name
  | .unknown => refuse expander.files "Bad substitution".toList
  | .length =>
    match value? with
    | some cells => return [⟨cutting, lettersIn quoted (Octets.ofInt cells.length)⟩]
    | none =>
      let _ ← unsetValue expander name
      return [⟨cutting, lettersIn quoted ['0']⟩]
  | .otherwise orEmpty word =>
    match kept orEmpty with
    | some cells => return [⟨cutting, cells⟩]
    | none => return (← expandPieces expander within {} word).stretches
  | .instead orEmpty word =>
    if (kept orEmpty).isSome then return (← expandPieces expander within {} word).stretches
    else return []
  | .assign orEmpty word =>
    match kept orEmpty with
    | some cells => return [⟨cutting, cells⟩]
    | none =>
      let text := (← expandPieces expander .ofText {} word).text
      assign expander.files name text
      return [⟨cutting, lettersIn quoted text⟩]
  | .demand orEmpty word =>
    match kept orEmpty with
    | some cells => return [⟨cutting, cells⟩]
    | none =>
      let text := (← expandPieces expander .ofText {} word).text
      refuseUnset expander name (if word.isEmpty then unsetMessage orEmpty else text)
  | .trim side longest word =>
    match value? with
    | none => unsetValue expander name
    | some cells =>
      let inner ← expandPieces expander .ofText {} word
      let form := Form.ofCells (cellsOf inner.stretches)
      return [⟨cutting, trimCells side longest form cells⟩]

end

end TagMenu.Shell
