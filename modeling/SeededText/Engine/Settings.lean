import SeededText.Data.Reader
import SeededText.Output.NumberFormat
import SeededText.Number.Numeral

/-!
Contract: the settings of an engine.

Owns: limits, the number format and the flags that runs start with, the path of a dictionary; their
written form.
Does not own: files (`SeededText.Tools`).
-/

namespace SeededText

open Output

structure Settings where
  /-- How many pieces of code may be under way at once. -/
  maxStackDepth : Nat
  /-- Bound of repetition and character counts. -/
  maxRepetitions : Nat
  numberFormat : NumberFormat
  /-- Flags that are set when a run starts. -/
  flags : List String
  dictionary? : Option String
deriving DecidableEq, Repr

namespace Settings

open Data

def standard : Settings :=
  ⟨4096, 10000, .normal, [], none⟩

instance : Inhabited Settings := ⟨standard⟩

/-- Number format by the name that settings use. -/
def readNumberFormat (value : Value) : Except Fault NumberFormat := do
  match ← value.asWord with
  | "normal" => return .normal
  | "group" => return .group
  | "group_commas" => return .groupCommas
  | "group_dots" => return .groupDots
  | "roman" => return .roman
  | "roman_upper" => return .romanUpper
  | "roman_lower" => return .romanLower
  | "verbal" => return .verbal
  | _ => .error (.expected "a number format")

def readCount (value : Value) : Except Fault Nat :=
  value.asCount Number.countLimit

/-- The settings that a text writes; what it leaves out is standard. -/
def parse (text : String) : Except Fault Settings := do
  let document ← read text
  let fields ← document.value.asRecord "EngineConfig"
    ["max_stack_depth", "max_repetitions", "number_format", "flags", "dictionary"]
  return {
    maxStackDepth := ← optionalField fields "max_stack_depth" standard.maxStackDepth readCount
    maxRepetitions := ← optionalField fields "max_repetitions" standard.maxRepetitions readCount
    numberFormat := ← optionalField fields "number_format" standard.numberFormat readNumberFormat
    flags := ← optionalField fields "flags" standard.flags Value.asTexts
    dictionary? := ← optionalField fields "dictionary" none fun value => do
      (← value.asOptional document.implicitSome).mapM Value.asText }

end Settings

end SeededText
