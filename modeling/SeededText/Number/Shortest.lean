import SeededText.Number.Binary64

/-!
Contract: the decimal text of a floating-point number.

The text has the fewest digits that read back as the number and, of those, the nearest to it; it is
always positional, never with an exponent.

Owns: the interval of values that round to a number, the search for the shortest decimal in it, and
positional text.
Does not own: grouping and words (`SeededText.Output.NumberFormat`).
-/

namespace SeededText.Number

/-- The value `numerator / denominator` and the distances to the ends of its rounding interval, in
the same unit. -/
structure RoundingInterval where
  numerator : Nat
  denominator : Nat
  below : Nat
  above : Nat
  endsIncluded : Bool

/-- Interval of `significand · 2 ^ exponent`. Under a power of two the lower neighbour is at half
the distance, except at the bottom of the range. -/
def roundingInterval (significand : Nat) (exponent : Int) : RoundingInterval :=
  let powerOfTwo := significand = leadingBit ∧ exponent ≠ -1074
  let unit := 1 <<< exponent.toNat
  { numerator := 4 * significand * unit
    denominator := 4 <<< (-exponent).toNat
    below := if powerOfTwo then unit else 2 * unit
    above := 2 * unit
    endsIncluded := significand % 2 = 0 }

/-- Whether `coefficient · 10 ^ scale` lies in the interval. -/
def RoundingInterval.holds (interval : RoundingInterval) (coefficient : Nat) (scale : Int) : Bool :=
  let candidate := coefficient * Nat.pow 10 scale.toNat * interval.denominator
  let unit := Nat.pow 10 (-scale).toNat
  let low := (interval.numerator - interval.below) * unit
  let high := (interval.numerator + interval.above) * unit
  if interval.endsIncluded then low ≤ candidate && candidate ≤ high
  else low < candidate && candidate < high

/-- Number of decimal places by which the value must be moved left to be below one, given that it
is positive: `10 ^ (result - 1) ≤ value < 10 ^ result`. -/
def RoundingInterval.decimalPoint (interval : RoundingInterval) : Int :=
  let wholePart := interval.numerator / interval.denominator
  if 0 < wholePart then ((Nat.toDigits 10 wholePart).length : Int)
  else
    let leadingZeros := (List.range 400).findIdx (fun places =>
      interval.denominator ≤ interval.numerator * Nat.pow 10 (places + 1))
    Int.negOfNat leadingZeros

/-- The decimal with `digits` digits nearest to the value, if one lies in the interval; a tie goes
to the larger. -/
def RoundingInterval.nearest? (interval : RoundingInterval) (point : Int) (digits : Nat) :
    Option (Nat × Int) :=
  let scale := point - digits
  let scaled := interval.numerator * Nat.pow 10 (-scale).toNat
  let unit := interval.denominator * Nat.pow 10 scale.toNat
  let lower := scaled / unit
  let lowerHolds := interval.holds lower scale
  let upperHolds := interval.holds (lower + 1) scale
  let upperIsNearer := unit ≤ 2 * (scaled % unit)
  if lowerHolds && (!upperHolds || !upperIsNearer) then some (lower, scale)
  else if upperHolds then some (lower + 1, scale)
  else none

/-- Coefficient and power of ten of the shortest decimal of a positive number. -/
def shortestDecimal (significand : Nat) (exponent : Int) : Nat × Int :=
  let interval := roundingInterval significand exponent
  let point := interval.decimalPoint
  ((List.range 17).findSome? fun shorter => interval.nearest? point (shorter + 1)).getD (0, 0)

/-- Positional text of `digits · 10 ^ scale`. -/
def positional (digits : List Char) (scale : Int) : List Char :=
  let places := (-scale).toNat
  if places = 0 then digits ++ List.replicate scale.toNat '0'
  else if places < digits.length then
    let fraction := (digits.drop (digits.length - places)).reverse.dropWhile (· == '0')
    digits.take (digits.length - places) ++
      (if fraction.isEmpty then [] else '.' :: fraction.reverse)
  else
    let fraction := (List.replicate (places - digits.length) '0' ++ digits).reverse.dropWhile
      (· == '0')
    '0' :: '.' :: fraction.reverse

/-- Text of the magnitude of a number. -/
def magnitudeText : FloatView → List Char
  | .notANumber => "NaN".toList
  | .infinite _ => "inf".toList
  | .finite _ significand exponent =>
      if significand = 0 then ['0']
      else
        let (coefficient, scale) := shortestDecimal significand exponent
        positional (Nat.toDigits 10 coefficient) scale

def FloatView.isNegative : FloatView → Bool
  | .notANumber => false
  | .infinite negative => negative
  | .finite negative _ _ => negative

/-- Text of a number. A zero keeps its sign. -/
def floatText (value : Float) : String :=
  let parts := view value
  let magnitude := magnitudeText parts
  String.ofList (if parts.isNegative then '-' :: magnitude else magnitude)

end SeededText.Number
