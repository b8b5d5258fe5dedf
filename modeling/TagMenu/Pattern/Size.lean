import TagMenu.Pattern.Expr
import TagMenu.Pattern.Spans

/-!
How large a machine is that matches an expression. There are two of them, one that reads a text
forward and one that reads it backward, and both go octet by octet: a state takes 32 octets, a way
from a state by a range of octets 8 more where there may be several, and a branch 4 more.
-/

namespace TagMenu.Pattern

open Text (Span)

def total (numbers : List Nat) : Nat := numbers.foldl (· + ·) 0

def rowGroups : List (List Span) → List (Span × List (List Span))
  | [] => []
  | [] :: rest => rowGroups rest
  | (span :: row) :: rest =>
    match rowGroups rest with
    | (next, rows) :: more =>
      if next = span then (next, row :: rows) :: more else (span, [row]) :: (next, rows) :: more
    | [] => [(span, [row])]

def rowStates : Nat → List (List Span) → List (List (List Span))
  | 0, _ => []
  | length + 1, rows =>
    if rows.all List.isEmpty then []
    else rows :: (rowGroups rows).flatMap fun (_, rest) => rowStates length rest

def forwardSetSize (rows : List (List Span)) : Nat :=
  32 + total ((rowStates 4 rows).eraseDups.map fun rest => 32 + 8 * (rowGroups rest).length)

def sharedLength : List Span → List Span → Nat
  | left :: lefts, right :: rights => if left = right then sharedLength lefts rights + 1 else 0
  | _, _ => 0

/-- The states of rows that are read from their ends, but for those shared with the row before. -/
def backwardStates (previous : List Span) : List (List Span) → Nat
  | [] => 0
  | row :: rest => row.length - sharedLength previous row + backwardStates row rest

def backwardSetSize (rows : List (List Span)) : Nat :=
  64 + 4 * rows.length + 32 * backwardStates [] rows

def splitAtEmpty : List (List Nat) → List (List (List Nat))
  | [] => [[]]
  | [] :: rest => [] :: splitAtEmpty rest
  | text :: rest =>
    match splitAtEmpty rest with
    | [] => [[text]]
    | texts :: more => (text :: texts) :: more

def choiceSize : Nat → List (List Nat) → Nat
  | 0, _ => 0
  | length + 1, texts =>
    if texts.all List.isEmpty then 0
    else
      let chunks := splitAtEmpty texts
      32 + 4 * (chunks.length - 1) + total (chunks.map fun chunk =>
        let heads := (chunk.filterMap List.head?).eraseDups
        let states := total (heads.map fun head =>
          choiceSize length ((chunk.filter (·.head? == some head)).map List.tail))
        match heads with
        | [] => 0
        | [_] => 36 + states
        | _ => 36 + 8 * heads.length + states)

/-- What is known of an expression beside its size. -/
inductive Shape where
  | nothing
  | text (codes : List Nat)
  | set (spans : List Span)
  | other

structure Size where
  shape : Shape
  forward : Nat
  backward : Nat
  mayBeEmpty : Bool
  isZeroWidth : Bool

namespace Size

def nothing : Size := ⟨.nothing, 32, 32, true, true⟩

def look : Size := ⟨.other, 32, 32, true, true⟩

def ofText (codes : List Nat) : Size :=
  let octets := codes.flatMap Text.OctetRange.octets
  ⟨.text codes, 32 * octets.length, 32 * octets.length, false, false⟩

def ofSpans (spans : List Span) : Size :=
  let single? := match spans with
    | [(low, high)] => if low = high then some low else none
    | _ => none
  match single? with
  | some code => ofText [code]
  | none =>
    if spans.all (·.2 ≤ 0x7F) then
      let size := 64 + 8 * spans.length
      ⟨.set spans, size, size, spans.isEmpty, false⟩
    else
      let rows := spans.flatMap fun (low, high) => Text.OctetRange.rows low high
      ⟨.set spans, forwardSetSize rows, backwardSetSize rows, false, false⟩

def append (first second : Size) : Size :=
  match first.shape, second.shape with
  | .nothing, _ => second
  | _, .nothing => first
  | .text left, .text right => ofText (left ++ right)
  | _, _ =>
    ⟨.other, first.forward + second.forward, first.backward + second.backward,
      first.mayBeEmpty && second.mayBeEmpty, first.isZeroWidth && second.isZeroWidth⟩

def singleSpan? (size : Size) : Option Span :=
  match size.shape with
  | .text [code] => some (code, code)
  | _ => none

def spans? (size : Size) : Option (List Span) :=
  match size.shape with
  | .set spans => some spans
  | _ => none

def text? (size : Size) : Option (List Nat) :=
  match size.shape with
  | .text codes => some (codes.flatMap Text.OctetRange.octets)
  | _ => none

def choose (branches : List Size) : Size :=
  let mayBeEmpty := branches.any (·.mayBeEmpty)
  let isZeroWidth := branches.all (·.isZeroWidth)
  match branches.mapM text? with
  | some texts =>
    let length := texts.foldl (fun length text => Nat.max length text.length) 0 + 1
    ⟨.other, 32 + choiceSize length texts, 32 + choiceSize length (texts.map List.reverse),
      mayBeEmpty, isZeroWidth⟩
  | none =>
    let join := 64 + 4 * branches.length
    ⟨.other, join + total (branches.map (·.forward)), join + total (branches.map (·.backward)),
      mayBeEmpty, isZeroWidth⟩

def ofBranches (branches : List Size) : Size :=
  match branches with
  | [] => nothing
  | [size] => size
  | branches =>
    match branches.mapM singleSpan? with
    | some spans => ofSpans (normalSpans spans)
    | none =>
      match branches.mapM spans? with
      | some sets => ofSpans (normalSpans sets.flatten)
      | none => choose branches

def roundsSize (mayBeEmpty : Bool) (min : Nat) (max : Option Nat) (size : Nat) : Nat :=
  match max with
  | none =>
    if min = 0 then if mayBeEmpty then size + 112 else size + 40
    else min * size + 40
  | some max =>
    if min = max then min * size
    else if min = 0 && max = 1 then size + 72
    else (if min = 0 then 32 else min * size) + 32 + (max - min) * (size + 40)

/-- A repetition: it is written out as often as it may have to be, which is once where nothing
    but the empty text is repeated. -/
def rounds (body : Size) (min : Nat) (max : Option Nat) : Size :=
  let min := if body.isZeroWidth then Nat.min min 1 else min
  let max := if body.isZeroWidth then some ((max.map (Nat.min · 1)).getD 1) else max
  if max = some 0 then nothing
  else if min = 1 && max = some 1 then body
  else
    ⟨.other, roundsSize body.mayBeEmpty min max body.forward,
      roundsSize body.mayBeEmpty min max body.backward, min = 0 || body.mayBeEmpty,
      body.isZeroWidth⟩

def group (body : Size) : Size :=
  ⟨.other, body.forward + 64, body.backward, body.mayBeEmpty, body.isZeroWidth⟩

end Size

namespace Expr

def branchSizes : Expr → List Size
  | empty => [.nothing]
  | char c => [.ofText [c.toNat]]
  | set chars => [.ofSpans chars.spans]
  | look _ => [.look]
  | seq first second =>
    [(Size.ofBranches first.branchSizes).append (.ofBranches second.branchSizes)]
  | alt left right => .ofBranches left.branchSizes :: right.branchSizes
  | iterate body min max => [(Size.ofBranches body.branchSizes).rounds min max]
  | group body => [(Size.ofBranches body.branchSizes).group]

def size (expr : Expr) : Size := .ofBranches expr.branchSizes

/-- How many octets the larger machine takes. Each has a state for the end of a match; the one
    that reads forward also passes over what stands before the match, which it captures. -/
def cost (expr : Expr) : Nat :=
  let size := expr.size
  Nat.max (size.forward + 208) (size.backward + 64)

end Expr

end TagMenu.Pattern
