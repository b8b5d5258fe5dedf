import TagMenu.Text.Quoted

namespace TagMenu.Text

inductive Shown where
  | word (content : String)
  | text (content : String)
  | list (items : List Shown)
  | wrapped (name : String) (content : Shown)
  | record (name : String) (fields : List (String × Shown))

namespace Shown

mutual

def render : Shown → String
  | word content => content
  | text content => quoted content
  | list items => "[" ++ renderItems items ++ "]"
  | wrapped name content => name ++ "(" ++ content.render ++ ")"
  | record name fields => name ++ " \x7b " ++ renderFields fields ++ " \x7d"

def renderItems : List Shown → String
  | [] => ""
  | [item] => item.render
  | item :: next :: more => item.render ++ ", " ++ renderItems (next :: more)

def renderFields : List (String × Shown) → String
  | [] => ""
  | [(name, value)] => name ++ ": " ++ value.render
  | (name, value) :: next :: more =>
    name ++ ": " ++ value.render ++ ", " ++ renderFields (next :: more)

end

def number (n : Nat) : Shown := word (toString n)

def texts (items : List String) : Shown := list (items.map text)

def optional : Option Shown → Shown
  | none => word "None"
  | some value => wrapped "Some" value

end Shown

end TagMenu.Text
