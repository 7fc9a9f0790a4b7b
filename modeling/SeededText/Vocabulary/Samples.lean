import SeededText.Vocabulary.Carrier

/-!
Contract: a lexicon and carrier rules that need no dictionary.

Owns: the lexicon of numbers, rules by the last digit.
Does not own: dictionaries (`SeededText.Vocabulary.Dictionary`).
-/

namespace SeededText.Vocabulary

/-- Name of the table of numbers. -/
def numberTable : String := "n"

/-- A number as a candidate. -/
def numberCandidate (number : Nat) : Candidate where
  key := ⟨numberTable, number⟩
  text := toString number
  pronunciation? := none
  classes := [if number % 2 = 0 then "even" else "odd"]
  termCount := 1

/-- The lexicon whose one table has the numbers below `count`; every query of the table is
answered by all of them. -/
def Lexicon.numbers (count : Nat) : Lexicon where
  lookup query :=
    if query.table = numberTable then .ok ((List.range count).map numberCandidate)
    else .error (.unknownTable query.table)

/-- Words rhyme by their last character, belong together if they list the same classes, and are all
related. -/
def CarrierRules.lastCharacter : CarrierRules where
  rhymes first second := first.text.toList.getLast? == second.text.toList.getLast?
  groupKey candidate := String.intercalate "," candidate.classes
  related _ _ := true

end SeededText.Vocabulary
