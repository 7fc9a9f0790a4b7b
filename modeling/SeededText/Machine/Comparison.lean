import SeededText.Number.Reading

/-!
Contract: comparing two texts, as numbers if both are numbers.

Owns: comparisons and the flags that ask about them.
Does not own: the tags that compare (`SeededText.Machine.Operation`).
-/

namespace SeededText.Machine

open Text

structure Comparison where
  ordering : Ordering
  isNumeric : Bool
deriving DecidableEq, Repr

namespace Comparison

/-- Order of two numbers; what is not comparable counts as equal. -/
def compareNumbers (first second : Float) : Ordering :=
  if first < second then .lt else if second < first then .gt else .eq

/-- Order of two texts by their characters. -/
def compareTexts (first second : String) : Ordering :=
  if first < second then .lt else if second < first then .gt else .eq

def ofTexts (first second : String) : Comparison :=
  match Number.readFloat? (trimmed first.toList), Number.readFloat? (trimmed second.toList) with
  | some firstNumber, some secondNumber => ⟨compareNumbers firstNumber secondNumber, true⟩
  | _, _ => ⟨compareTexts first second, false⟩

/-- Whether what a flag says is so, if there is a flag of that name. -/
def has? (comparison : Comparison) (flag : String) : Option Bool :=
  match String.ofList (looseCharacters flag.toList) with
  | "equal" | "eq" => some (comparison.ordering == .eq)
  | "notequal" | "ne" => some (comparison.ordering != .eq)
  | "less" | "lt" => some (comparison.ordering == .lt)
  | "greater" | "gt" => some (comparison.ordering == .gt)
  | "lessequal" | "le" => some (comparison.ordering != .gt)
  | "greaterequal" | "ge" => some (comparison.ordering != .lt)
  | "numeric" => some comparison.isNumeric
  | "textual" => some !comparison.isNumeric
  | _ => none

end Comparison

end SeededText.Machine
