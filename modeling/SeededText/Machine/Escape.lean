import SeededText.Machine.Fault
import SeededText.Number.Numeral
import SeededText.Random.Generator

/-!
Contract: what escape tokens print.

The value of an escape token is a code, with an optional repeat count and a comma before it. A code
names one character or a random draw from a range of characters; each repetition draws anew.

Owns: splitting the value, the codes, repeated expansion.
Does not own: reading an escape from the source (`SeededText.Pattern.Lexer`).
-/

namespace SeededText.Machine

open SeededText.Random Text

/-- Digits of the repeat count, none if there is no count, and the code. -/
def splitEscape (value : List Char) : List Char × List Char :=
  match value.span fun character => character != ',' with
  | (digits, ',' :: code) =>
      if !digits.isEmpty && digits.all isAsciiDigit && !code.isEmpty then (digits, code)
      else ([], value)
  | _ => ([], value)

/-- The repeat count that the digits write, one if there are none. -/
def escapeCount (digits : List Char) : Except Malformation Nat :=
  if digits.isEmpty then .ok 1
  else
    match Number.readCount? digits with
    | some count => .ok count
    | none => .error (.escapeCount (String.ofList digits))

/-- The character `distance` behind `first`. -/
def characterFrom (first : Char) (distance : Nat) : Char :=
  Char.ofNat (first.toNat + distance)

/-- The character with the code point that four hexadecimal digits write. -/
def codePoint (digits : List Char) : Except Malformation Char :=
  let point := Unicode.hexValue digits
  if !digits.isEmpty && digits.all isAsciiHexDigit && decide point.isValidChar then
    .ok (Char.ofNat point)
  else .error (.codePoint (String.ofList digits))

/-- The character that a code stands for this time. -/
def drawEscape (code : List Char) (generator : Generator) :
    Except Malformation (Char × Generator) :=
  let fixed (character : Char) : Except Malformation (Char × Generator) :=
    .ok (character, generator)
  let drawn (draw : Nat × Generator) (character : Nat → Char) :
      Except Malformation (Char × Generator) :=
    .ok (character draw.1, draw.2)
  match code with
  | [] => .error .emptyEscape
  | 'n' :: _ => fixed '\n'
  | 't' :: _ => fixed '\t'
  | 'r' :: _ => fixed '\r'
  | 's' :: _ => fixed ' '
  | 'd' :: _ => drawn (generator.belowByte 10) (characterFrom '0')
  | 'D' :: _ => drawn (generator.belowByte 9) (characterFrom '1')
  | 'c' :: _ => drawn (generator.belowByte 26) (characterFrom 'a')
  | 'C' :: _ => drawn (generator.belowByte 26) (characterFrom 'A')
  | 'x' :: _ => drawn (generator.below 16) Nat.digitChar
  | 'X' :: _ => drawn (generator.below 16) fun digit => (Nat.digitChar digit).toUpper
  | 'u' :: digits => (codePoint digits).map fun character => (character, generator)
  | character :: _ => fixed character

/-- Expands a code `count` times behind the text of `expanded`. -/
def expandEscape (code : List Char) :
    Nat → String → Generator → Except Malformation (String × Generator)
  | 0, expanded, generator => .ok (expanded, generator)
  | count + 1, expanded, generator =>
      match drawEscape code generator with
      | .ok (character, generator) => expandEscape code count (expanded.push character) generator
      | .error malformation => .error malformation

end SeededText.Machine
