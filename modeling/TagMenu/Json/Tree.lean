namespace TagMenu.Json

inductive Tree (Leaf Name : Type) where
  | leaf (value : Leaf)
  | list (items : List (Tree Leaf Name))
  | object (members : List (Name × Tree Leaf Name))
deriving Inhabited, Repr

def member? {Value : Type} (name : String) (members : List (String × Value)) : Option Value :=
  members.reverse.lookup name

end TagMenu.Json
