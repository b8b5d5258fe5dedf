import TagMenu.Number.Double
import TagMenu.Text.Digits

namespace TagMenu.Double

/-- The reals that round to a double are those between `low` and `high`, all in units of one
    `denominator`th; the ends are among them if `closed`. -/
structure Interval where
  low : Nat
  value : Nat
  high : Nat
  denominator : Nat
  closed : Bool

/-- The interval of a double other than zero. Below a power of two doubles lie twice as close. -/
def interval (double : Double) : Interval :=
  let (significand, exponent) := double.parts
  let below := if significand = 0x10000000000000 ∧ exponent ≠ -1074 then 1 else 2
  let scale := if exponent < 0 then 1 else Nat.pow 2 exponent.toNat
  { low := (4 * significand - below) * scale
    value := 4 * significand * scale
    high := (4 * significand + 2) * scale
    denominator := if exponent < 0 then 4 * Nat.pow 2 (-exponent).toNat else 4
    closed := significand % 2 == 0 }

namespace Interval

def holds (interval : Interval) (count : Nat) (exponent : Int) : Bool :=
  let tens := Nat.pow 10 exponent.natAbs
  let (point, unit) :=
    if exponent < 0 then (count * interval.denominator, tens)
    else (count * interval.denominator * tens, 1)
  let (low, high) := (interval.low * unit, interval.high * unit)
  if interval.closed then low ≤ point && point ≤ high else low < point && point < high

/-- The multiples of the `exponent`th power of ten next to the value: the one below or at it, and
    whether the one above it is nearer. Of two that are equally near the even one counts. -/
def neighbours (interval : Interval) (exponent : Int) : Nat × Bool :=
  let tens := Nat.pow 10 exponent.natAbs
  let (numerator, denominator) :=
    if exponent < 0 then (interval.value * tens, interval.denominator)
    else (interval.value, interval.denominator * tens)
  let below := numerator / denominator
  let twice := 2 * (numerator % denominator)
  (below, twice > denominator || (twice == denominator && below % 2 == 1))

def multiple? (interval : Interval) (exponent : Int) : Option Nat :=
  let (below, above) := interval.neighbours exponent
  let (first, second) := if above then (below + 1, below) else (below, below + 1)
  if interval.holds first exponent then some first
  else if interval.holds second exponent then some second
  else none

def magnitude (interval : Interval) : Int :=
  let whole := interval.value / interval.denominator
  if 0 < whole then ((Nat.toDigits 10 whole).length : Int) - 1
  else
    let inverse := (Nat.toDigits 10 (interval.denominator / interval.value)).length
    if interval.value * Nat.pow 10 (inverse - 1) ≥ interval.denominator then 1 - (inverse : Int)
    else -(inverse : Int)

/-- The first of `count` grids, each ten times as fine as the one before it, of which a point is in
    the interval: the point, and the exponent of the grid. -/
def coarsest (interval : Interval) : Nat → Int → Nat × Int
  | 0, exponent => ((interval.neighbours exponent).1, exponent)
  | count + 1, exponent =>
    match interval.multiple? exponent with
    | some multiple => (multiple, exponent)
    | none => coarsest interval count (exponent - 1)

end Interval

def digitLimit : Nat := 17

def shortest (double : Double) : List Char × Int :=
  let interval := double.interval
  let (multiple, exponent) := interval.coarsest digitLimit interval.magnitude
  let digits := Nat.toDigits 10 multiple
  let kept := (digits.reverse.dropWhile (· == '0')).reverse
  (kept, exponent + digits.length - 1)

/-- Numbers are written without an exponent from the fifth place after the point up to sixteen
    places before it. -/
def isPositional (exponent : Int) : Bool := -5 ≤ exponent && exponent < 16

def positional (digits : List Char) (exponent : Int) : List Char :=
  if exponent < 0 then '0' :: '.' :: List.replicate (-exponent - 1).toNat '0' ++ digits
  else
    let places := exponent.toNat + 1
    let before := digits.take places
    let after := digits.drop places
    before ++ List.replicate (places - before.length) '0' ++
      ('.' :: if after.isEmpty then ['0'] else after)

def scientific (digits : List Char) (exponent : Int) : List Char :=
  let after := digits.drop 1
  digits.take 1 ++ (if after.isEmpty then [] else '.' :: after) ++
    ['e', if exponent < 0 then '-' else '+'] ++ Nat.toDigits 10 exponent.natAbs

def text (double : Double) : String :=
  let magnitude :=
    if double.isZero then ['0', '.', '0']
    else
      let (digits, exponent) := double.shortest
      if isPositional exponent then positional digits exponent else scientific digits exponent
  String.ofList (if double.isNegative then '-' :: magnitude else magnitude)

end TagMenu.Double
