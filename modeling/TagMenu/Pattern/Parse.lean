import TagMenu.Pattern.Progress
import TagMenu.Pattern.Size

namespace TagMenu.Pattern

namespace Reading

theorem length_lt_of_step {reading next : Reading} {chars rest left : List Char} {c : Char}
    (visible : skip reading.flags.extended chars = c :: rest)
    (stepped : reading.step c rest = .ok (next, left)) : left.length < chars.length := by
  have shorter := (step_suffix stepped).length_le
  have skipped := (skip_suffix reading.flags.extended chars).length_le
  rw [visible, List.length_cons] at skipped
  omega

def run (reading : Reading) (chars : List Char) : Except Fault Reading :=
  match visible : skip reading.flags.extended chars with
  | [] => .ok reading
  | c :: rest =>
    match stepped : reading.step c rest with
    | .error fault => .error fault
    | .ok (next, left) =>
      have := length_lt_of_step visible stepped
      run next left
termination_by chars.length

def depthLimit : Nat := 250

def finish (reading : Reading) : Except Fault Expr :=
  if !reading.classes.isEmpty then .error .unclosedClass
  else if !reading.outer.isEmpty then .error .unclosedGroup
  else
    let content := reading.group.content
    if content.depth > depthLimit then .error .nestedTooDeep else .ok content.expr

end Reading

def parse (pattern : String) : Except Fault Expr := do
  (← Reading.run {} pattern.toList).finish

def costLimit : Nat := 10 * 1024 * 1024

def compile (pattern : String) : Except Fault Expr := do
  let expr ← parse pattern
  if expr.cost > costLimit then throw .tooLarge
  return expr

end TagMenu.Pattern
