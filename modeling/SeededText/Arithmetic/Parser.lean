import SeededText.Arithmetic.Lexer

/-!
Contract: reading expressions by precedence.

The reader goes over the tokens once. What waits for a right operand stands on a stack; an operator
first completes everything on the stack that binds its left side more tightly than it does.

Owns: the stack, completion, the reader.
Does not own: tokens.
-/

namespace SeededText.Arithmetic

/-- A part of an expression that waits for its right operand, or for a closing parenthesis. -/
inductive Pending where
  | operand (operator : BinaryOperator) (left : Expr)
  | assignment (operator? : Option BinaryOperator) (left : Expr)
  | sequence (first : Expr)
  | negation
  | affirmation
  | parenthesis

/-- Only operators that bind more tightly than this belong to the right operand. -/
def Pending.floor : Pending → Nat
  | .operand operator _ => operator.rightFloor
  | .assignment .. => (Operator.assign none).precedence - 1
  | .sequence _ => Operator.bar.precedence
  | .negation | .affirmation => signPrecedence
  | .parenthesis => 0

/-- The expression with its right operand. -/
def Pending.complete (right : Expr) : Pending → Except Fault Expr
  | .operand operator left => .ok (.binary operator left right)
  | .assignment operator? (.variable name) => .ok (.assign operator? name right)
  | .assignment operator? _ => .error (.notAssignable (Operator.assign operator?).text)
  | .sequence first => .ok (.sequence first right)
  | .negation => .ok (.negated right)
  | .affirmation | .parenthesis => .ok right

/-- Completes what an operator of the given precedence does not belong to. A parenthesis stays. -/
def settle (precedence : Nat) : List Pending → Expr → Except Fault (List Pending × Expr)
  | [], left => .ok ([], left)
  | pending :: outer, left =>
      if pending.floor < precedence then .ok (pending :: outer, left)
      else do settle precedence outer (← pending.complete left)

mutual

/-- Reads on where an operand has to come. -/
def readOperand (stack : List Pending) : List Token → Except Fault Expr
  | [] => .error .unexpectedEnd
  | .number value :: rest => readOperator stack (.number value) rest
  | .variable name :: rest => readOperator stack (.variable name) rest
  | .opens :: rest => readOperand (.parenthesis :: stack) rest
  | .operator (.binary .subtract) :: rest => readOperand (.negation :: stack) rest
  | .operator (.binary .add) :: rest => readOperand (.affirmation :: stack) rest
  | .operator (.step up) :: .variable name :: rest => readOperator stack (.step name up true) rest
  | .operator (.step _) :: other :: _ => .error (.notAssignable other.text)
  | [.operator (.step _)] => .error .unexpectedEnd
  | token :: _ => .error (.unexpectedToken token.text)

/-- Reads on behind an operand. -/
def readOperator (stack : List Pending) (left : Expr) : List Token → Except Fault Expr
  | [] => do
      match ← settle 1 stack left with
      | ([], whole) => return whole
      | _ => .error .unexpectedEnd
  | .operator operator :: rest => do
      let (stack, left) ← settle operator.precedence stack left
      match operator, left with
      | .binary operator, _ => readOperand (.operand operator left :: stack) rest
      | .assign operator?, _ => readOperand (.assignment operator? left :: stack) rest
      | .bar, _ => readOperand (.sequence left :: stack) rest
      | .step up, .variable name => readOperator stack (.step name up false) rest
      | .step _, _ => .error (.notAssignable operator.text)
  | .closes :: rest => do
      match ← settle 1 stack left with
      | (.parenthesis :: outer, inner) => readOperator outer inner rest
      | _ => .error (.unexpectedToken Token.closes.text)
  | token :: _ => do
      let _ ← settle 1 stack left
      .error (.unexpectedToken token.text)

end

/-- The expression that the tokens write, all of them. -/
def parseTokens (tokens : List Token) : Except Fault Expr :=
  readOperand [] tokens

def parse (text : String) : Except Fault Expr := do
  parseTokens (← tokenize text)

end SeededText.Arithmetic
