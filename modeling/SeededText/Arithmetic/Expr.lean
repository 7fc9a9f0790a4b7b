import SeededText.Number.Shortest

/-!
Contract: arithmetic expressions over variables.

Owns: expressions, operators with their precedence, faults and their wording.
Does not own: written expressions (`SeededText.Arithmetic.Lexer`, `SeededText.Arithmetic.Parser`),
values (`SeededText.Arithmetic.Evaluation`).
-/

namespace SeededText.Arithmetic

inductive BinaryOperator where
  | add
  | subtract
  | multiply
  | divide
  | remainder
  | power
deriving DecidableEq, Repr

def BinaryOperator.text : BinaryOperator → String
  | .add => "+"
  | .subtract => "-"
  | .multiply => "*"
  | .divide => "/"
  | .remainder => "%"
  | .power => "^"

inductive Operator where
  | binary (operator : BinaryOperator)
  /-- Assignment, of the value itself or of the variable combined with it. -/
  | assign (operator? : Option BinaryOperator)
  /-- `++` and `--`. -/
  | step (up : Bool)
  | bar
deriving DecidableEq, Repr

def Operator.text : Operator → String
  | .binary operator => operator.text
  | .assign none => "="
  | .assign (some operator) => operator.text ++ "="
  | .step true => "++"
  | .step false => "--"
  | .bar => "|"

/-- How tightly an operator binds what stands to its left. -/
def Operator.precedence : Operator → Nat
  | .bar => 1
  | .assign _ => 2
  | .binary .add | .binary .subtract => 3
  | .binary .multiply | .binary .divide | .binary .remainder => 4
  | .binary .power => 6
  | .step _ => 7

/-- Precedence of a sign before an operand. -/
def signPrecedence : Nat := 5

/-- Operators that must bind more tightly than this belong to the right operand. Powers group from
the right. -/
def BinaryOperator.rightFloor : BinaryOperator → Nat
  | .power => (Operator.binary .power).precedence - 1
  | operator => (Operator.binary operator).precedence

inductive Expr where
  | number (value : Float)
  | variable (name : String)
  | negated (inner : Expr)
  | binary (operator : BinaryOperator) (left right : Expr)
  | assign (operator? : Option BinaryOperator) (name : String) (value : Expr)
  /-- Adds or subtracts one; the value is that of the variable after the change, if the sign stands
  before the name, or else that before it. -/
  | step (name : String) (up : Bool) (signBefore : Bool)
  | sequence (first second : Expr)

inductive Token where
  | number (value : Float)
  | variable (name : String)
  | operator (operator : Operator)
  | opens
  | closes

def Token.text : Token → String
  | .number value => Number.floatText value
  | .variable name => name
  | .operator operation => operation.text
  | .opens => "("
  | .closes => ")"

inductive Fault where
  /-- The offset counts bytes. -/
  | unexpectedCharacter (character : Char) (offset : Nat)
  | unexpectedToken (text : String)
  | unexpectedEnd
  | invalidNumber (text : String)
  | undefinedVariable (name : String)
  | notAssignable (text : String)
  | divisionByZero
deriving DecidableEq, Repr

def Fault.message : Fault → String
  | .unexpectedCharacter character offset =>
      s!"unexpected character '{character}' at offset {offset}"
  | .unexpectedToken text => s!"unexpected '{text}' in expression"
  | .unexpectedEnd => "unexpected end of expression"
  | .invalidNumber text => s!"invalid number '{text}'"
  | .undefinedVariable name => s!"undefined variable '{name}'"
  | .notAssignable text => s!"left side of '{text}' is not a variable"
  | .divisionByZero => "division by zero"

end SeededText.Arithmetic
