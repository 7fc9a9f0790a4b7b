import SeededText.Text.Unicode.Classes

/-!
Contract: reading integers in decimal.

A numeral is an optional sign and at least one ASCII digit, with nothing else around it. Reading is
bounded: `readInteger` has the range of signed, `readBounded` of unsigned words. Characters are
judged from the left, so a numeral that is both too long and malformed fails at whichever comes
first.

Owns: bounded reading of integers and its faults.
Does not own: reading of fractions (`SeededText.Number.Reading`).
-/

namespace SeededText.Number

open Text

inductive NumeralFault where
  | empty
  | invalidDigit
  | tooLarge
  | tooSmall
deriving DecidableEq, Repr

def NumeralFault.message : NumeralFault → String
  | .empty => "cannot parse integer from empty string"
  | .invalidDigit => "invalid digit found in string"
  | .tooLarge => "number too large to fit in target type"
  | .tooSmall => "number too small to fit in target type"

def digitValue (digit : Char) : Nat :=
  digit.toNat - '0'.toNat

/-- Appends digits to `value` as long as the value stays within `limit`. -/
def readDigits (limit : Nat) (overflow : NumeralFault) : List Char → Nat → Except NumeralFault Nat
  | [], value => .ok value
  | digit :: digits, value =>
      if ¬ isAsciiDigit digit then .error .invalidDigit
      else
        let extended := 10 * value + digitValue digit
        if limit < extended then .error overflow
        else readDigits limit overflow digits extended

/-- At least one digit, at most `limit`. -/
def readMagnitude (limit : Nat) (overflow : NumeralFault) (digits : List Char) :
    Except NumeralFault Nat :=
  match digits with
  | [] => .error .invalidDigit
  | _ => readDigits limit overflow digits 0

/-- A natural number up to `limit`, with or without a plus sign. -/
def readBounded (limit : Nat) (numeral : List Char) : Except NumeralFault Nat :=
  match numeral with
  | [] => .error .empty
  | '+' :: digits => readMagnitude limit .tooLarge digits
  | _ => readDigits limit .tooLarge numeral 0

/-- An integer in the range of signed 64-bit words. -/
def readInteger (numeral : List Char) : Except NumeralFault Int :=
  match numeral with
  | [] => .error .empty
  | '-' :: digits => do
      let magnitude ← readMagnitude (UInt64.size / 2) .tooSmall digits
      return -(magnitude : Int)
  | '+' :: digits => do
      let magnitude ← readMagnitude (UInt64.size / 2 - 1) .tooLarge digits
      return (magnitude : Int)
  | _ => do
      let magnitude ← readDigits (UInt64.size / 2 - 1) .tooLarge numeral 0
      return (magnitude : Int)

/-- Largest count: the largest unsigned 64-bit word. -/
def countLimit : Nat := UInt64.size - 1

/-- A count as patterns and settings write it. -/
def readCount? (numeral : List Char) : Option Nat :=
  (readBounded countLimit numeral).toOption

/-- A natural number in the range of unsigned 32-bit words. -/
def readWord? (numeral : List Char) : Option Nat :=
  (readBounded (UInt32.size - 1) numeral).toOption

def readInteger? (numeral : List Char) : Option Int :=
  (readInteger numeral).toOption

end SeededText.Number
