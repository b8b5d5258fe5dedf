import TagMenu.Pattern.Expr

/-!
Matching. A match of an expression moves from one place in a text to another. Sets of places are
numbers: place `i` is in the set if bit `i` is set; and an expression is a map of sets of places,
from where a match may start to where one may then end.
-/

namespace TagMenu.Pattern

/-- A map from the places where a match may start to the places where it may end. -/
structure Motion where
  ends : Nat → Nat

namespace Motion

/-- The places of `text` that satisfy a test of the characters around them; `before` stands before
    the text. -/
def places (test : Option Char → Option Char → Bool) (before : Option Char) : List Char → Nat
  | [] => (test before none).toNat
  | c :: rest => (test before (some c)).toNat + 2 * places test (some c) rest

/-- `count` steps. A step that changes nothing is the last one. -/
def times (step : Nat → Nat) : Nat → Nat → Nat
  | 0, starts => starts
  | count + 1, starts =>
    let next := step starts
    if next = starts then starts else times step count next

def upTo (step : Nat → Nat) : Nat → Nat → Nat
  | 0, starts => starts
  | count + 1, starts =>
    let next := starts ||| step starts
    if next = starts then starts else upTo step count next

def advance (text : List Char) (accepts : Char → Bool) : Motion :=
  let starts := places (fun _ after => after.any accepts) none text
  ⟨fun origins => (origins &&& starts) <<< 1⟩

def stay (text : List Char) (condition : Look) : Motion :=
  let met := places condition.holds none text
  ⟨fun origins => origins &&& met⟩

/-- The motion of an expression in a text. As every step goes forward, no more steps are of use
    than the text has places. -/
def ofExpr (text : List Char) : Expr → Motion
  | .empty => ⟨id⟩
  | .char c => advance text (· == c)
  | .set set => advance text set.contains
  | .look condition => stay text condition
  | .seq first second =>
    let first := ofExpr text first
    let second := ofExpr text second
    ⟨fun starts => second.ends (first.ends starts)⟩
  | .alt left right =>
    let left := ofExpr text left
    let right := ofExpr text right
    ⟨fun starts => left.ends starts ||| right.ends starts⟩
  | .iterate body min max =>
    let step := ofExpr text body
    let more := match max with
      | some max => max - min
      | none => text.length + 1
    ⟨fun starts => upTo step.ends more (times step.ends min starts)⟩
  | .group body => ofExpr text body

end Motion

def everywhere (length : Nat) : Nat := Nat.pow 2 (length + 1) - 1

def Expr.occurs (expr : Expr) (text : List Char) : Bool :=
  (Motion.ofExpr text expr).ends (everywhere text.length) != 0

end TagMenu.Pattern
