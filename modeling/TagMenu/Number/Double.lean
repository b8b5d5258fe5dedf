namespace TagMenu

structure Double where
  bits : UInt64
deriving DecidableEq, Repr, Inhabited

namespace Double

def ofFloat (value : Float) : Double := ⟨value.toBits⟩

def isNegative (double : Double) : Bool := double.bits.toNat / 0x8000000000000000 == 1

/-- The whole number `significand` and the power of two that together make up the magnitude. The
    smallest exponent stands for numbers without a leading one. -/
def parts (double : Double) : Nat × Int :=
  let fraction := double.bits.toNat % 0x10000000000000
  let exponent := double.bits.toNat / 0x10000000000000 % 0x800
  if exponent = 0 then (fraction, -1074) else (fraction + 0x10000000000000, Int.ofNat exponent - 1075)

def isZero (double : Double) : Bool := double.parts.1 == 0

def ratio (double : Double) : Nat × Nat :=
  let (significand, exponent) := double.parts
  if exponent < 0 then (significand, Nat.pow 2 (-exponent).toNat) else (significand * Nat.pow 2 exponent.toNat, 1)

def isWhole (double : Double) : Bool :=
  let (numerator, denominator) := double.ratio
  numerator % denominator == 0

def isPositiveWhole (double : Double) : Bool :=
  double.isWhole && !double.isNegative && !double.isZero

def largestTen : Nat := 308

def tenTo (exponent : Nat) : Float := Float.ofScientific 1 false exponent

def ofWhole (n : Nat) : Float := n.toUInt64.toFloat

def divideByTens (value : Float) (exponent : Nat) : Float :=
  if exponent ≤ largestTen then value / tenTo exponent
  else divideByTens (value / tenTo largestTen) (exponent - largestTen)
termination_by exponent
decreasing_by
  simp only [largestTen] at *
  omega

/-- `significand` times a power of ten, nothing if that is too large. A significand or a power of
    ten that is not a double is rounded before they are multiplied. -/
def scaled? (significand : Nat) (exponent : Int) : Option Float :=
  let value := ofWhole significand
  if exponent < 0 then
    -- Beyond this nothing is left of any significand.
    some (divideByTens value (Nat.min (-exponent).toNat 1000))
  else if significand = 0 then some value
  else if exponent.toNat ≤ largestTen then
    let product := value * tenTo exponent.toNat
    if product.isInf then none else some product
  else none

def ofParts? (negative : Bool) (significand : Nat) (exponent : Int) : Option Double :=
  (scaled? significand exponent).map fun value => ofFloat (if negative then -value else value)

end Double

end TagMenu
