import TagMenu.Text.Split

namespace TagMenu

structure Path where
  text : String
deriving DecidableEq, Repr, Inhabited, Hashable

namespace Path

/-- A step of a path. `current` occurs only at the start. -/
inductive Component where
  | root
  | current
  | parent
  | name (name : String)
deriving DecidableEq, Repr, Hashable

/-- The components of a path: what paths are compared by. -/
abbrev Key := List Component

def isAbsolute (path : Path) : Bool := path.text.startsWith "/"

def isEmpty (path : Path) : Bool := path.text.isEmpty

def componentOfPiece? (piece : List Char) : Option Component :=
  if piece = [] ∨ piece = ['.'] then none
  else if piece = ['.', '.'] then some .parent
  else some (.name (String.ofList piece))

def bodyComponents (chars : List Char) : List Component :=
  (Text.pieces '/' chars).filterMap componentOfPiece?

/-- Only a full stop at the start of a relative path counts. -/
def componentsOf (chars : List Char) : List Component :=
  match chars with
  | '/' :: rest => .root :: bodyComponents rest
  | _ =>
    match Text.pieces '/' chars with
    | ['.'] :: rest => .current :: rest.filterMap componentOfPiece?
    | all => all.filterMap componentOfPiece?

def components (path : Path) : List Component := componentsOf path.text.toList

def key (path : Path) : Key := path.components

def same (left right : Path) : Bool := left.key == right.key

/-- `path` seen from `base`: an absolute path stays, any other is written after `base` with one
    slash between them, which `base` may already end with. -/
def join (base path : Path) : Path :=
  if path.isAbsolute then path
  else if base.text.isEmpty || base.text.endsWith "/" then ⟨base.text ++ path.text⟩
  else ⟨base.text ++ "/" ++ path.text⟩

def Component.text : Component → String
  | root => "/"
  | current => "."
  | parent => ".."
  | name text => text

def append (base : Path) (components : List Component) : Path :=
  components.foldl (fun path component => path.join ⟨component.text⟩) base

def dropCurrent : List Component → List Component
  | .current :: rest => rest
  | components => components

/-- Exactly two slashes at the start are kept; more count as one. -/
def hasDoubleRoot (path : Path) : Bool :=
  path.text.startsWith "//" && !path.text.startsWith "///"

/-- The path seen from the absolute path `directory`, without repeated slashes and full stops. The
    parent components stay, and so does a slash at the end. The empty path has no absolute form. -/
def absolute? (path directory : Path) : Option Path :=
  if path.isEmpty then none
  else
    let written :=
      if path.hasDoubleRoot then append ⟨"//"⟩ (path.components.drop 1)
      else if path.isAbsolute then append ⟨""⟩ path.components
      else append directory (dropCurrent path.components)
    some (if path.text.endsWith "/" then written.join ⟨""⟩ else written)

def absolute (path directory : Path) : Path := (path.absolute? directory).getD path

/-- The slash at the start, and the pieces after it with whether they are components. A full stop
    is one if nothing stands before it. -/
def markedPieces (chars : List Char) : List Char × List (List Char × Bool) :=
  let mark (piece : List Char) := (piece, (componentOfPiece? piece).isSome)
  match chars with
  | '/' :: rest => (['/'], (Text.pieces '/' rest).map mark)
  | _ =>
    match Text.pieces '/' chars with
    | [] => ([], [])
    | first :: rest => ([], (first, !first.isEmpty) :: rest.map mark)

/-- Text with the last component cut out of it: all pieces before it, the last one first, and its
    own piece. What follows it is left out. -/
def cutLast? (pieces : List (List Char × Bool)) : Option (List (List Char × Bool) × List Char) :=
  match pieces.reverse.dropWhile (!·.2) with
  | [] => none
  | (last, _) :: before => some (before, last)

def parent? (path : Path) : Option Path :=
  let (root, pieces) := markedPieces path.text.toList
  (cutLast? pieces).map fun (before, _) =>
    let kept := (before.dropWhile (!·.2)).reverse.map (·.1)
    ⟨String.ofList (root ++ (kept.intersperse ['/']).flatten)⟩

def fileName? (path : Path) : Option String :=
  match path.components.getLast? with
  | some (.name name) => some name
  | _ => none

def extension? (path : Path) : Option String :=
  path.fileName?.bind fun name => (Text.cutExtension '.' name.toList).2.map String.ofList

def dropOctets (octets : Nat) : List Char → List Char
  | [] => []
  | c :: rest => if c.utf8Size ≤ octets then dropOctets (octets - c.utf8Size) rest else c :: rest

def replaceExtension (extension : String) (path : Path) : Path :=
  match path.fileName? with
  | none => path
  | some name =>
    let (root, pieces) := markedPieces path.text.toList
    let before := ((cutLast? pieces).map (·.1)).getD []
    let front := (before.reverse.map fun (piece, _) => piece ++ ['/']).flatten
    let stem := (Text.cutExtension '.' name.toList).1
    ⟨String.ofList (root ++ front ++ stem ++ '.' :: extension.toList)⟩

/-- The path with another extension. The old one is taken off the end of the text before the new one
    is put after what is then the stem. -/
def withExtension (extension : String) (path : Path) : Path :=
  let cut := match path.extension? with
    | none => path.text
    | some old => String.ofList (dropOctets old.utf8ByteSize path.text.toList.reverse).reverse
  replaceExtension extension ⟨cut⟩

end Path

end TagMenu
