/-!
Contract: binary floating-point numbers of 64 bits as signed multiples of powers of two.

`view` takes a number apart; everything exact is computed on the parts in natural numbers.

Owns: the parts of a number, exact remainder, whole numbers.
Does not own: decimal text of a number (`SeededText.Number.Shortest`, `SeededText.Number.Reading`).
-/

namespace SeededText.Number

/-- The parts of a floating-point number; a finite one is `significand · 2 ^ exponent`. -/
inductive FloatView where
  | notANumber
  | infinite (negative : Bool)
  | finite (negative : Bool) (significand : Nat) (exponent : Int)
deriving DecidableEq, Repr

/-- The leading bit of a significand, which is not written. -/
def leadingBit : Nat := 1 <<< 52

def viewBits (bits : Nat) : FloatView :=
  let negative := UInt64.size / 2 ≤ bits
  let biased : Nat := bits / leadingBit % 2048
  let fraction : Nat := bits % leadingBit
  if biased = 2047 then
    if fraction = 0 then .infinite negative else .notANumber
  else if biased = 0 then .finite negative fraction (-1074)
  else .finite negative (leadingBit + fraction) ((biased : Int) - 1075)

def view (value : Float) : FloatView :=
  viewBits value.toBits.toNat

def withSign (negative : Bool) (value : Float) : Float :=
  if negative then -value else value

def infinity : Float := 1.0 / 0.0

def notANumber : Float := 0.0 / 0.0

/-- Remainder of the division truncated toward zero, exactly; it has the sign of the dividend. -/
def remainder (dividend divisor : Float) : Float :=
  match view dividend, view divisor with
  | .finite negative significand exponent, .finite _ significand' exponent' =>
      if significand' = 0 then notANumber
      else
        let scale := min exponent exponent'
        let left := significand <<< (exponent - scale).toNat
        let right := significand' <<< (exponent' - scale).toNat
        withSign negative ((Float.ofNat (left % right)).scaleB scale)
  | .finite .., .infinite _ => dividend
  | _, _ => notANumber

/-- Value of a whole number below `10 ^ 15` in magnitude, where floating-point numbers are exact. -/
def whole? (value : Float) : Option Int :=
  match view value with
  | .finite negative significand exponent =>
      let scale := 1 <<< (-exponent).toNat
      if significand % scale = 0 then
        let magnitude := (significand / scale) <<< exponent.toNat
        if magnitude < 1000000000000000 then
          some (if negative then -(magnitude : Int) else (magnitude : Int))
        else none
      else none
  | _ => none

end SeededText.Number
