import TagMenu.Pattern.Parse
import TagMenu.Pattern.Motion
import TagMenu.Text.Quoted

namespace TagMenu

structure Keyword where
  pattern : String
  expr : Pattern.Expr

namespace Keyword

structure Error where
  pattern : String
  fault : Pattern.Fault
deriving DecidableEq, Repr

def Error.message (error : Error) : String :=
  "Invalid keyword pattern " ++ Text.quoted error.pattern

def anchored (pattern : String) : String := "(?:" ++ pattern ++ ")$"

def compile (pattern : String) : Except Error Keyword :=
  match Pattern.compile (anchored pattern) with
  | .ok expr => .ok ⟨pattern, expr⟩
  | .error fault => .error ⟨pattern, fault⟩

def accepts (keyword : Keyword) (word : String) : Bool := keyword.expr.occurs word.toList

end Keyword

end TagMenu
