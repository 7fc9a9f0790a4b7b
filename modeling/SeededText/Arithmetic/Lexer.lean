import SeededText.Arithmetic.Expr
import SeededText.Number.Reading

/-!
Contract: cutting a written expression into tokens.

Owns: the spelling of tokens.
Does not own: how tokens form expressions (`SeededText.Arithmetic.Parser`).
-/

namespace SeededText.Arithmetic

open Text

/-- Number of bytes of a text. -/
def byteLength (characters : List Char) : Nat :=
  characters.foldl (fun length character => length + character.utf8Size) 0

def isNumberCharacter (character : Char) : Bool :=
  isAsciiDigit character || character == '.'

def isVariableStart (character : Char) : Bool :=
  isAlphabetic character || character == '_'

def isVariableCharacter (character : Char) : Bool :=
  isAlphanumeric character || character == '_'

/-- The operator of one character. -/
def singleOperator? : Char → Option Operator
  | '+' => some (.binary .add)
  | '-' => some (.binary .subtract)
  | '*' => some (.binary .multiply)
  | '/' => some (.binary .divide)
  | '%' => some (.binary .remainder)
  | '^' => some (.binary .power)
  | '=' => some (.assign none)
  | '|' => some .bar
  | _ => none

/-- The operator of two characters. -/
def doubleOperator? (first second : Char) : Option Operator :=
  if first = '+' ∧ second = '+' then some (.step true)
  else if first = '-' ∧ second = '-' then some (.step false)
  else if second = '=' then
    match singleOperator? first with
    | some (.binary operator) => some (.assign (some operator))
    | _ => none
  else none

/-- The longest operator at the start of a text, with its length. -/
def readOperatorSpelling? (first : Char) (rest : List Char) : Option (Operator × Nat) :=
  match rest.head?.bind (doubleOperator? first) with
  | some operator => some (operator, 2)
  | none => (singleOperator? first).map fun operator => (operator, 1)

/-- The token, if it is no blank, at the start of a text, and the number of characters it has. -/
def readToken (offset : Nat) (first : Char) (rest : List Char) :
    Except Fault (Option Token × Nat) :=
  if isBlank first then .ok (none, 1)
  else if isNumberCharacter first then
    let digits := first :: rest.takeWhile isNumberCharacter
    match Number.readFloat? digits with
    | some value => .ok (some (.number value), digits.length)
    | none => .error (.invalidNumber (String.ofList digits))
  else if isVariableStart first then
    let name := first :: rest.takeWhile isVariableCharacter
    .ok (some (.variable (String.ofList name)), name.length)
  else if first = '(' then .ok (some .opens, 1)
  else if first = ')' then .ok (some .closes, 1)
  else
    match readOperatorSpelling? first rest with
    | some (operator, length) => .ok (some (.operator operator), length)
    | none => .error (.unexpectedCharacter first offset)

/-- The tokens of a text that begins at a byte offset. -/
def tokensFrom (offset : Nat) : List Char → Except Fault (List Token)
  | [] => .ok []
  | first :: rest => do
      let (token?, length) ← readToken offset first rest
      let spelling := first :: rest.take (length - 1)
      let behind ← tokensFrom (offset + byteLength spelling) (rest.drop (length - 1))
      return token?.toList ++ behind
termination_by text => text.length
decreasing_by simp only [List.length_drop, List.length_cons]; omega

def tokenize (text : String) : Except Fault (List Token) :=
  tokensFrom 0 text.toList

end SeededText.Arithmetic
