import SeededText.Number.Binary64
import SeededText.Number.Numeral
import SeededText.Text.Unicode.Casing

/-!
Contract: reading floating-point numbers.

A number is a sign, digits with at most one point among or beside them, and an optional exponent;
`inf`, `infinity` and `nan` are read in any case. The value is the nearest floating-point number.

Owns: the grammar of written numbers and their value.
Does not own: text of numbers (`SeededText.Number.Shortest`).
-/

namespace SeededText.Number

open Text

/-- `coefficient · 10 ^ exponent`, rounded. Exponents that leave no doubt are cut short. -/
def decimalFloat (coefficient : Nat) (exponent : Int) : Float :=
  if coefficient = 0 then 0.0
  else
    let point := ((Nat.toDigits 10 coefficient).length : Int) + exponent
    if 310 < point then infinity
    else if point < -330 then 0.0
    else if 0 ≤ exponent then Float.ofScientific coefficient false exponent.toNat
    else Float.ofScientific coefficient true (-exponent).toNat

/-- Exponent after its mark: an optional sign and at least one digit. -/
def readExponent? (characters : List Char) : Option Int :=
  let (negative, digits) :=
    match characters with
    | '-' :: digits => (true, digits)
    | '+' :: digits => (false, digits)
    | _ => (false, characters)
  if digits.isEmpty || !digits.all isAsciiDigit then none
  else
    let magnitude := Unicode.decimalValue digits
    some (if negative then -(magnitude : Int) else (magnitude : Int))

/-- An unsigned number: digits, a point, digits, an exponent. -/
def readUnsignedFloat? (characters : List Char) : Option Float :=
  let (wholePart, afterWhole) := characters.span isAsciiDigit
  let (fraction, afterFraction) :=
    match afterWhole with
    | '.' :: rest => rest.span isAsciiDigit
    | _ => ([], afterWhole)
  if wholePart.isEmpty && fraction.isEmpty then none
  else
    let exponent? :=
      match afterFraction with
      | [] => some 0
      | mark :: rest => if mark = 'e' ∨ mark = 'E' then readExponent? rest else none
    exponent?.map fun exponent =>
      decimalFloat (Unicode.decimalValue (wholePart ++ fraction)) (exponent - fraction.length)

/-- The named values, in lower case. -/
def namedFloat? (name : List Char) : Option Float :=
  if name = "inf".toList ∨ name = "infinity".toList then some infinity
  else if name = "nan".toList then some notANumber
  else none

/-- A number with an optional sign. -/
def readFloat? (characters : List Char) : Option Float :=
  let (negative, magnitude) :=
    match characters with
    | '-' :: rest => (true, rest)
    | '+' :: rest => (false, rest)
    | _ => (false, characters)
  ((readUnsignedFloat? magnitude).orElse fun _ => namedFloat? (magnitude.map asciiLower)).map
    (withSign negative)

end SeededText.Number
