import TagMenu.Text.Split
import TagMenu.Text.Digits

namespace TagMenu.Unicode

/-- A set of code points: those within one of the ranges, both ends included. -/
structure CodeSet where
  ranges : List (Nat × Nat)
deriving DecidableEq, Repr, Inhabited

namespace CodeSet

def contains (set : CodeSet) (code : Nat) : Bool :=
  set.ranges.any fun (low, high) => low ≤ code && code ≤ high

def empty : CodeSet := ⟨[]⟩

def union (left right : CodeSet) : CodeSet := ⟨left.ranges ++ right.ranges⟩

def rangeOfWord? (word : List Char) : Option (Nat × Nat) :=
  match Text.cutFirst? '-' word with
  | none => (Text.hexNumber? word).map fun code => (code, code)
  | some (low, high) => do some (← Text.hexNumber? low, ← Text.hexNumber? high)

def ofTable (table : String) : CodeSet :=
  let words := (Text.pieces '\n' table.toList).flatMap (Text.pieces ' ')
  ⟨words.filterMap rangeOfWord?⟩

end CodeSet

end TagMenu.Unicode
