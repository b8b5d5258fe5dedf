import TagMenu.Shell.Octets

namespace TagMenu.Shell

inductive Cell where
  | letter (quoted : Bool) (c : Char)
  | quote
  | gap
deriving DecidableEq, Repr

inductive Cutting where
  | nothing
  | separators
  | gaps
deriving DecidableEq, Repr

structure Stretch where
  cutting : Cutting
  cells : List Cell

def textOf (cells : List Cell) : Octets :=
  cells.filterMap fun
    | .letter _ c => some c
    | _ => none

def cellsOf (stretches : List Stretch) : List Cell := stretches.flatMap (·.cells)

def usualSeparators : Octets := [' ', '\t', '\n']

/-- The fields under way. The last ones stand first, and so do the last cells. -/
structure Cut where
  done : List (List Cell) := []
  current : List Cell := []
  afterBlank : Bool := false
  left : Option Nat := none
  kept : Option Nat := none
  cutting : Cutting := .nothing

namespace Cut

def push (cut : Cut) (cell : Cell) : Cut := { cut with current := cell :: cut.current }

def step (cut : Cut) (bare isSeparator isBlank : Bool) (cell : Cell) : Cut :=
  if cut.left = some 0 then
    if isBlank then { cut.push cell with kept := some (cut.kept.getD cut.current.length) }
    else
      { cut.push cell with
        kept := if isSeparator && cut.afterBlank then cut.kept else none
        afterBlank := false }
  else if cut.afterBlank then
    if isBlank then cut
    else if isSeparator then { cut with afterBlank := false }
    else { cut.push cell with afterBlank := false }
  else if isSeparator then
    let afterBlank := !bare && isBlank
    if cut.current.isEmpty && afterBlank then cut
    else if cut.left = some 1 then
      { cut.push cell with left := some 0, kept := some cut.current.length, afterBlank }
    else
      { cut with
        done := cut.current :: cut.done
        current := []
        left := cut.left.map (· - 1)
        afterBlank }
  else cut.push cell

def stretch (separators : Octets) (cut : Cut) (stretch : Stretch) : Cut :=
  if stretch.cutting = .nothing then
    { cut with current := stretch.cells.reverse ++ cut.current }
  else
    let byGaps := stretch.cutting = .gaps
    let bare := byGaps || cut.cutting = .gaps
    stretch.cells.foldl (fun cut cell =>
      match cell with
      | .letter _ c =>
        let isSeparator := !byGaps && separators.contains c
        cut.step bare isSeparator (isSeparator && usualSeparators.contains c) cell
      | .quote => cut.step bare false false cell
      | .gap => cut.step bare true true cell) { cut with afterBlank := false, cutting := stretch.cutting }

def finish (cut : Cut) : List (List Cell) :=
  if cut.cutting = .gaps then (cut.current :: cut.done).reverse.map List.reverse
  else
    let current := match cut.kept with
      | some length => cut.current.drop (cut.current.length - length)
      | none => cut.current
    (if current.isEmpty then cut.done else current :: cut.done).reverse.map List.reverse

end Cut

def fieldsOf (separators : Octets) (most : Option Nat) (stretches : List Stretch) :
    List (List Cell) :=
  (stretches.foldl (Cut.stretch separators) { left := most }).finish

end TagMenu.Shell
