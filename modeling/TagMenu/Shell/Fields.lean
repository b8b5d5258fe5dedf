import TagMenu.Shell.Expand

namespace TagMenu.Shell

variable {m : Type → Type} [Monad m]

def segmentsOf : List Sign → List (List Sign)
  | [] => [[]]
  | sign :: rest =>
    if sign.c = '/' then [] :: segmentsOf rest
    else
      match segmentsOf rest with
      | [] => [[sign]]
      | first :: others => (sign :: first) :: others

def signText (signs : List Sign) : Octets := signs.map (·.c)

def isLink (files : Files m) (name : Octets) : Run m Bool := do
  let last := (name.reverse.takeWhile (· != '/')).reverse
  let before := name.take (name.length - last.length)
  if last.isEmpty then return false
  let entries ← outside (files.entries (← pathOf (if before.isEmpty then ['.'] else before)) [])
  return entries.any fun (entry, kind) => Octets.ofName entry = last && kind = .other

def isThere (files : Files m) (name : Octets) : Run m Bool := do
  if ← outside (files.exists? (← pathOf name)) then return true else isLink files name

/-- The names in a directory that a segment stands for. Names that start with a full stop are hidden
    from segments that do not. -/
def namesIn (files : Files m) (directory : Octets) (segment : List Sign) :
    Run m (List Octets) := do
  let path ← pathOf (if directory.isEmpty then ['.'] else directory)
  unless ← outside (files.exists? path) do return []
  let entries ← outside (files.entries path [])
  let names := ['.'] :: ['.', '.'] :: entries.map fun (name, _) => Octets.ofName name
  let form := Form.ofSigns segment
  let showsHidden := (signText segment).head? = some '.'
  return names.filter fun name => (showsHidden || name.head? != some '.') && form.matches name

def filesOf (files : Files m) (before : Octets) : List (List Sign) → Run m (List Octets)
  | [] => return []
  | [segment] => do
    if isVaried segment then return (← namesIn files before segment).map (before ++ ·)
    else
      let name := before ++ signText segment
      return if ← isThere files name then [name] else []
  | segment :: next :: rest => do
    if isVaried segment then
      let names ← namesIn files before segment
      return (← names.mapM fun name =>
        filesOf files (before ++ name ++ ['/']) (next :: rest)).flatten
    else filesOf files (before ++ signText segment ++ ['/']) (next :: rest)

def wordsOf (files : Files m) (field : List Cell) : Run m (List Octets) := do
  let text := textOf field
  if (← session).has .noglob then return [text]
  let segments := segmentsOf (signsOf field)
  if segments.any isVaried then
    let found ← filesOf files [] segments
    if found.isEmpty then return [text]
    else return found.mergeSort fun a b => !Octets.before b a
  else return [text]

def expand (expander : Expander m) (how : Expansion) (word : Word) : Run m (List Stretch) :=
  return (← expandPieces expander how {} word).stretches

def expandWord (expander : Expander m) (word : Word) : Run m (List Octets) := do
  let stretches ← expand expander .ofWord word
  let fields := fieldsOf (← separators) none stretches
  return (← fields.mapM (wordsOf expander.files)).flatten

def expandWords (expander : Expander m) (words : List Word) : Run m (List Octets) :=
  return (← words.mapM (expandWord expander)).flatten

def expandText (expander : Expander m) (how : Expansion) (word : Word) : Run m Octets :=
  return textOf (cellsOf (← expand expander how word))

def expandForm (expander : Expander m) (word : Word) : Run m Form :=
  return Form.ofCells (cellsOf (← expand expander .ofText word))

end TagMenu.Shell
