import SeededText.Number.Shortest
import SeededText.Text.Unicode.Casing

/-!
Contract: how numbers are written.

Whole numbers are written exactly: plain, in groups of three digits, as Roman numerals or in English
words. Fractions are written plain or grouped.

Owns: the formats, their names, the written form of a number.
Does not own: the shortest decimal of a fraction (`SeededText.Number.Shortest`).
-/

namespace SeededText.Output

open Text

inductive NumberFormat where
  | normal
  /-- Thousands apart by commas. -/
  | group
  | groupCommas
  /-- Thousands apart by points, with a decimal comma. -/
  | groupDots
  | roman
  | romanUpper
  | romanLower
  | verbal
deriving DecidableEq, Repr, Inhabited

/-- The format with a loosely written name. -/
def NumberFormat.ofName? (name : String) : Option NumberFormat :=
  match looseName name with
  | "normal" => some .normal
  | "group" => some .group
  | "groupcommas" => some .groupCommas
  | "groupdots" => some .groupDots
  | "roman" => some .roman
  | "romanupper" => some .romanUpper
  | "romanlower" => some .romanLower
  | "verbal" => some .verbal
  | _ => none

/-- Decimal digits of a natural number. -/
def decimalDigits (number : Nat) : List Char :=
  Nat.toDigits 10 number

/-- A minus sign before the text of a negative number. -/
def signed (negative : Bool) (magnitude : List Char) : List Char :=
  if negative then '-' :: magnitude else magnitude

/-- Plain decimal of an integer. -/
def plain (number : Int) : List Char :=
  signed (number < 0) (decimalDigits number.natAbs)

/-- Digits with a separator before every third from the right. -/
def groupDigits (separator : Char) : List Char → List Char
  | [] => []
  | digit :: rest =>
      if rest.length % 3 = 0 ∧ rest ≠ [] then digit :: separator :: groupDigits separator rest
      else digit :: groupDigits separator rest

/-- An integer in groups of three digits. -/
def grouped (separator : Char) (number : Int) : List Char :=
  signed (number < 0) (groupDigits separator (decimalDigits number.natAbs))

/-- A fraction whose digits before the point are grouped. -/
def groupedFraction (separator point : Char) (number : Float) : List Char :=
  let parts := Number.view number
  let magnitude := Number.magnitudeText parts
  let wholePart := magnitude.takeWhile (· != '.')
  let fraction := magnitude.drop (wholePart.length + 1)
  signed parts.isNegative
    (groupDigits separator wholePart ++ (if fraction.isEmpty then [] else point :: fraction))

/-- Amounts of the Roman numerals, largest first. -/
def romanNumerals : List (Nat × String) :=
  [(1000, "M"), (900, "CM"), (500, "D"), (400, "CD"), (100, "C"), (90, "XC"), (50, "L"),
    (40, "XL"), (10, "X"), (9, "IX"), (5, "V"), (4, "IV"), (1, "I")]

/-- Every numeral as often as its amount goes into what the larger ones left. -/
def romanFrom : List (Nat × String) → Nat → List Char
  | [], _ => []
  | (amount, numeral) :: smaller, number =>
      (List.replicate (number / amount) numeral.toList).flatten ++
        romanFrom smaller (number % amount)

/-- Roman numeral of an integer between 1 and 3999. -/
def roman? (number : Int) : Option (List Char) :=
  if 1 ≤ number ∧ number < 4000 then some (romanFrom romanNumerals number.toNat) else none

/-- Words of the numbers below twenty. -/
def smallNumberWords : List String :=
  ["zero", "one", "two", "three", "four", "five", "six", "seven", "eight", "nine", "ten", "eleven",
    "twelve", "thirteen", "fourteen", "fifteen", "sixteen", "seventeen", "eighteen", "nineteen"]

/-- Words of the tens; the first two are not in use. -/
def tensWords : List String :=
  ["", "", "twenty", "thirty", "forty", "fifty", "sixty", "seventy", "eighty", "ninety"]

/-- Words of the powers of a thousand, largest first. -/
def scaleWords : List (Nat × String) :=
  [(1000000000000000000, "quintillion"), (1000000000000000, "quadrillion"),
    (1000000000000, "trillion"), (1000000000, "billion"), (1000000, "million"),
    (1000, "thousand")]

def smallNumberWord (number : Nat) : String :=
  smallNumberWords.getD number ""

def tensWord (tens : Nat) : String :=
  tensWords.getD tens ""

/-- Words of a number below one hundred, none for zero. -/
def wordsBelowHundred (number : Nat) : List String :=
  if 20 ≤ number then
    if number % 10 = 0 then [tensWord (number / 10)]
    else [tensWord (number / 10) ++ "-" ++ smallNumberWord (number % 10)]
  else if 0 < number then [smallNumberWord number]
  else []

/-- Words of a number below one thousand, none for zero. -/
def wordsBelowThousand (number : Nat) : List String :=
  (if 0 < number / 100 then [smallNumberWord (number / 100) ++ " hundred"] else []) ++
    wordsBelowHundred (number % 100)

/-- Words of a natural number by scales, none for zero. -/
def wordsFrom : List (Nat × String) → Nat → List String
  | [], number => wordsBelowThousand number
  | (scale, name) :: smaller, number =>
      if scale ≤ number then
        wordsBelowThousand (number / scale) ++ name :: wordsFrom smaller (number % scale)
      else wordsFrom smaller number

/-- Words of an integer. -/
def numberWords (number : Int) : List String :=
  if number = 0 then [smallNumberWord 0]
  else (if number < 0 then ["negative"] else []) ++ wordsFrom scaleWords number.natAbs

def NumberFormat.writeInteger (format : NumberFormat) (number : Int) : String :=
  match format with
  | .normal => String.ofList (plain number)
  | .group | .groupCommas => String.ofList (grouped ',' number)
  | .groupDots => String.ofList (grouped '.' number)
  | .roman | .romanUpper => String.ofList ((roman? number).getD (plain number))
  | .romanLower =>
      String.ofList (((roman? number).map (·.map asciiLower)).getD (plain number))
  | .verbal => String.intercalate " " (numberWords number)

/-- Whole numbers are written as integers. -/
def NumberFormat.write (format : NumberFormat) (number : Float) : String :=
  match Number.whole? number with
  | some integer => format.writeInteger integer
  | none =>
      match format with
      | .group | .groupCommas => String.ofList (groupedFraction ',' '.' number)
      | .groupDots => String.ofList (groupedFraction '.' ',' number)
      | _ => Number.floatText number

end SeededText.Output
