import SeededText.Arithmetic.Parser
import SeededText.Number.Binary64
import SeededText.Table

/-!
Contract: values of expressions.

Evaluation reads and assigns variables from left to right; assignments made before a fault stay.

Owns: variables, evaluation of expressions and of their texts.
Does not own: written expressions.
-/

namespace SeededText.Arithmetic

/-- Values of variables by name. -/
abbrev Valuation := Table String Float

/-- Evaluation changes the variables, also when it fails. -/
abbrev Evaluation := ExceptT Fault (StateM Valuation)

def BinaryOperator.apply (operator : BinaryOperator) (left right : Float) : Except Fault Float :=
  match operator with
  | .add => .ok (left + right)
  | .subtract => .ok (left - right)
  | .multiply => .ok (left * right)
  | .divide => if right == 0.0 then .error .divisionByZero else .ok (left / right)
  | .remainder =>
      if right == 0.0 then .error .divisionByZero else .ok (Number.remainder left right)
  | .power => .ok (left.pow right)

def readVariable (name : String) : Evaluation Float := do
  match (← getThe Valuation).find? name with
  | some value => return value
  | none => throw (.undefinedVariable name)

def assignVariable (name : String) (value : Float) : Evaluation Unit :=
  modifyThe Valuation fun valuation => valuation.insert name value

def Expr.value : Expr → Evaluation Float
  | .number value => return value
  | .variable name => readVariable name
  | .negated inner => do return -(← inner.value)
  | .binary operator left right => do
      let left ← left.value
      let right ← right.value
      ExceptT.mk (pure (operator.apply left right))
  | .assign operator? name value => do
      let value ← value.value
      let result ←
        match operator? with
        | none => pure value
        | some operator => do
            let current ← readVariable name
            ExceptT.mk (pure (operator.apply current value))
      assignVariable name result
      return result
  | .step name up signBefore => do
      let current ← readVariable name
      let changed := current + (if up then 1.0 else -1.0)
      assignVariable name changed
      return if signBefore then changed else current
  | .sequence first second => do
      let _ ← first.value
      second.value

/-- Value of a written expression, and the variables after it. A text that is no expression leaves
them as they were. -/
def evaluate (text : String) (valuation : Valuation) : Except Fault Float × Valuation :=
  match parse text with
  | .error fault => (.error fault, valuation)
  | .ok expr => expr.value.run.run valuation

end SeededText.Arithmetic
