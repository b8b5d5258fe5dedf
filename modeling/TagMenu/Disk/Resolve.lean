import TagMenu.Disk.Node
import TagMenu.Path

namespace TagMenu.Disk

inductive Step where
  | stay
  | up
  | enter (name : String)
deriving DecidableEq, Repr

def stepsOf (chars : List Char) : List Step :=
  (Text.pieces '/' chars).map fun piece =>
    if piece = [] ∨ piece = ['.'] then .stay
    else if piece = ['.', '.'] then .up
    else .enter (String.ofList piece)

def itinerary (here : Place) (path : String) : Place × List Step :=
  match path.toList with
  | '/' :: rest => ([], stepsOf rest)
  | chars => (here, stepsOf chars)

/-- What a path leads to: something, or a place in a directory where nothing is. The last step of a
    path to nothing may ask for a directory. -/
inductive Target where
  | found (place : Place) (node : Node)
  | vacant (place : Place) (asDirectory : Bool)

def linkLimit : Nat := 40

def nameLimit : Nat := 255

def pathLimit : Nat := 4095

/-- Follows steps through the tree `root`. A link at the end is followed only if `follow`. -/
def walk (root : Node) (follow : Bool) (links : Nat) (here : Place) (steps : List Step) :
    Except Failure Target :=
  match steps with
  | [] => match root.get? here with
    | some node => .ok (.found here node)
    | none => .error .notFound
  | .stay :: rest => walk root follow links here rest
  | .up :: rest => walk root follow links here.dropLast rest
  | .enter name :: rest =>
    let place := here ++ [name]
    if name.utf8ByteSize > nameLimit then .error .nameTooLong
    else
      match root.get? place with
      | none =>
        if rest.isEmpty then .ok (.vacant place false)
        else if rest.all (· = .stay) then .ok (.vacant place true)
        else .error .notFound
      | some (.file content modified) =>
        if rest.isEmpty then .ok (.found place (.file content modified)) else .error .notADirectory
      | some (.directory _ _) => walk root follow links place rest
      | some (.link target) =>
        if rest.isEmpty ∧ !follow then .ok (.found place (.link target))
        else
          match links with
          | 0 => .error .tooManyLinks
          | links + 1 =>
            let (start, first) := itinerary here target
            walk root follow links start (first ++ rest)
termination_by (links, steps.length)

def resolve (root : Node) (here : Place) (follow : Bool) (path : Path) : Except Failure Target :=
  if path.text.contains '\x00' then .error .nulInPath
  else if path.isEmpty then .error .notFound
  else if path.text.utf8ByteSize > pathLimit then .error .nameTooLong
  else
    let (start, steps) := itinerary here path.text
    walk root follow linkLimit start steps

def find (root : Node) (here : Place) (follow : Bool) (path : Path) :
    Except Failure (Place × Node) :=
  match resolve root here follow path with
  | .ok (.found place node) => .ok (place, node)
  | .ok (.vacant _ _) => .error .notFound
  | .error failure => .error failure

end TagMenu.Disk
