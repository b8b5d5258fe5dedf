import TagMenu.Json.Tree
import TagMenu.Json.Token

namespace TagMenu.Json

structure Dialect (Leaf Name : Type) where
  leaf? : Token → Option Leaf
  name? : Token → Option Name
  /-- A comma may stand after the last item, and may be left out. -/
  loose : Bool

/-- A list or an object that is open, the last item first. A member is under way once its name has
    been read. -/
inductive Container (Leaf Name : Type) where
  | list (items : List (Tree Leaf Name))
  | object (members : List (Name × Tree Leaf Name))
  | member (members : List (Name × Tree Leaf Name)) (name : Name)

inductive Expected where
  | value
  | item (orEnd : Bool)
  | colon
  | separator
  | nothing
deriving DecidableEq, Repr

structure Builder (Leaf Name : Type) where
  containers : List (Container Leaf Name) := []
  expected : Expected := .value
  result : Option (Tree Leaf Name) := none

namespace Builder

variable {Leaf Name : Type}

def add (builder : Builder Leaf Name) (tree : Tree Leaf Name) : Option (Builder Leaf Name) :=
  match builder.containers with
  | [] => some { builder with expected := .nothing, result := some tree }
  | .list items :: outer =>
    some { builder with containers := .list (tree :: items) :: outer, expected := .separator }
  | .member members name :: outer =>
    some { builder with
      containers := .object ((name, tree) :: members) :: outer, expected := .separator }
  | .object _ :: _ => none

def enter (builder : Builder Leaf Name) (container : Container Leaf Name) :
    Builder Leaf Name :=
  { builder with containers := container :: builder.containers, expected := .item true }

def value (dialect : Dialect Leaf Name) (builder : Builder Leaf Name) (token : Token) :
    Option (Builder Leaf Name) :=
  match token with
  | .openList => some (builder.enter (.list []))
  | .openObject => some (builder.enter (.object []))
  | token => (dialect.leaf? token).bind fun leaf => builder.add (.leaf leaf)

def item (dialect : Dialect Leaf Name) (builder : Builder Leaf Name) (token : Token) :
    Option (Builder Leaf Name) :=
  match builder.containers with
  | .object members :: outer =>
    (dialect.name? token).map fun name =>
      { builder with containers := .member members name :: outer, expected := .colon }
  | _ => builder.value dialect token

def close? (builder : Builder Leaf Name) (token : Token) : Option (Builder Leaf Name) :=
  match builder.containers, token with
  | .list items :: outer, .closeList =>
    { builder with containers := outer }.add (.list items.reverse)
  | .object members :: outer, .closeObject =>
    { builder with containers := outer }.add (.object members.reverse)
  | _, _ => none

def step (dialect : Dialect Leaf Name) (builder : Builder Leaf Name) (token : Token) :
    Option (Builder Leaf Name) :=
  match builder.expected with
  | .value => builder.value dialect token
  | .item orEnd =>
    match if orEnd then builder.close? token else none with
    | some closed => some closed
    | none => builder.item dialect token
  | .colon => if token = .colon then some { builder with expected := .value } else none
  | .separator =>
    if token = .comma then some { builder with expected := .item dialect.loose }
    else
      match builder.close? token with
      | some closed => some closed
      | none => if dialect.loose then builder.item dialect token else none
  | .nothing => none

def build (dialect : Dialect Leaf Name) (tokens : List Token) : Option (Tree Leaf Name) := do
  let builder ← tokens.foldlM (step dialect) {}
  if builder.expected = .nothing then builder.result else none

end Builder

end TagMenu.Json
