import TagMenu.Pattern.Charset
import TagMenu.Text.OctetRange

namespace TagMenu.Pattern

open Text (Span)

def joinSpans : List Span → List Span
  | [] => []
  | [span] => [span]
  | (low, high) :: (nextLow, nextHigh) :: rest =>
    if nextLow ≤ high + 1 then joinSpans ((low, Nat.max high nextHigh) :: rest)
    else (low, high) :: joinSpans ((nextLow, nextHigh) :: rest)
termination_by spans => spans.length

def normalSpans (spans : List Span) : List Span :=
  joinSpans (spans.mergeSort fun left right => left.1 ≤ right.1)

def gapSpans (start : Nat) : List Span → List Span
  | [] => if start ≤ 0x10FFFF then [(start, 0x10FFFF)] else []
  | (low, high) :: rest =>
    (if start < low then [(start, low - 1)] else []) ++ gapSpans (high + 1) rest

def commonSpans (left right : List Span) : List Span :=
  gapSpans 0 (normalSpans (gapSpans 0 left ++ gapSpans 0 right))

def caselessSpans (ascii : Bool) (spans : List Span) : List Span :=
  let isMember (code : Nat) : Bool := spans.any fun (low, high) => low ≤ code && code ≤ high
  let orbits := if ascii then Unicode.Folding.asciiOrbits else Unicode.Folding.orbits
  let touched := orbits.filter (·.any isMember)
  normalSpans (spans ++ touched.flatMap (·.map fun code => (code, code)))

def Charset.spans : Charset → List Span
  | range low high => if low ≤ high then [(low, high)] else []
  | codes set => normalSpans set.ranges
  | union left right => normalSpans (left.spans ++ right.spans)
  | intersection left right => commonSpans left.spans right.spans
  | difference left right => commonSpans left.spans (gapSpans 0 right.spans)
  | symmetricDifference left right =>
    let left := left.spans
    let right := right.spans
    normalSpans (commonSpans left (gapSpans 0 right) ++ commonSpans right (gapSpans 0 left))
  | complement set => gapSpans 0 set.spans
  | caseless ascii set => caselessSpans ascii set.spans

end TagMenu.Pattern
