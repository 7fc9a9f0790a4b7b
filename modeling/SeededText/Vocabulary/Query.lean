import SeededText.Regex.Parser

/-!
Contract: questions to a vocabulary.

A query names a table and a form of its entries, filters the entries by their classes, by regexes
and by syllables, and may tie its answer to those of other queries by a carrier.

Owns: queries and what each filter accepts.
Does not own: their written form (`SeededText.Vocabulary.QueryParser`), the entries
(`SeededText.Vocabulary.Dictionary`), what carriers remember (`SeededText.Vocabulary.Carrier`).
-/

namespace SeededText.Vocabulary

/-- Asks whether an entry is in a class, or whether it is not. -/
structure ClassRule where
  className : String
  isIncluded : Bool
deriving DecidableEq, Repr

def ClassRule.holds (rule : ClassRule) (classes : List String) : Bool :=
  classes.contains rule.className == rule.isIncluded

/-- Groups of class rules. Every group must have a rule that holds. -/
abbrev ClassFilter := List (List ClassRule)

namespace ClassFilter

/-- The filter with one group more; an empty group adds nothing. -/
def addGroup (filter : ClassFilter) (group : List ClassRule) : ClassFilter :=
  if group.isEmpty then filter else filter ++ [group]

/-- Whether some rule names the class as one to be in. -/
def names (filter : ClassFilter) (className : String) : Bool :=
  filter.flatten.any fun rule => rule.isIncluded && rule.className == className

/-- Whether an entry with these classes passes. An exclusive filter allows no class that it does not
name. -/
def accepts (filter : ClassFilter) (classes : List String) (exclusive : Bool) : Bool :=
  (filter.all fun group => group.any fun rule => rule.holds classes) &&
    (!exclusive || classes.all filter.names)

end ClassFilter

/-- Asks whether a text has a match, or whether it has none. -/
structure RegexFilter where
  regex : Regex
  isIncluded : Bool

def RegexFilter.accepts (filter : RegexFilter) (text : String) : Bool :=
  filter.regex.isMatch text.toList == filter.isIncluded

/-- Bounds of a number of syllables, both included, either of them open. -/
structure SyllableRange where
  least? : Option Nat
  most? : Option Nat
deriving DecidableEq, Repr

def SyllableRange.exactly (count : Nat) : SyllableRange :=
  ⟨some count, some count⟩

def SyllableRange.contains (range : SyllableRange) (count : Nat) : Bool :=
  range.least?.all (· ≤ count) && range.most?.all (count ≤ ·)

/-- How an answer is tied to the group of an earlier one. -/
inductive Grouping where
  /-- The same group key. -/
  | associative
  /-- A different group key. -/
  | dissociative
  /-- An entry that was not picked before for the same form. -/
  | divergent
  /-- An entry related to the first one. -/
  | relational
deriving DecidableEq, Repr

inductive CarrierKind where
  /-- The same entry again. -/
  | matching
  /-- An entry that was not picked before. -/
  | unique
  /-- An entry that was not picked before and is not the matching one. -/
  | matchUnique
  /-- An entry that rhymes with the first one. -/
  | rhyme
  | grouping (grouping : Grouping) (pins : Bool)
deriving DecidableEq, Repr

/-- Whether answers of this kind are repeated as long as they are allowed. -/
def CarrierKind.pinsEntry : CarrierKind → Bool
  | .matching => true
  | .grouping _ pins => pins
  | _ => false

def Grouping.sigil : Grouping → String
  | .associative => "@"
  | .dissociative => "@!"
  | .divergent => "@+"
  | .relational => "@?"

def CarrierKind.sigil : CarrierKind → String
  | .matching => "="
  | .unique => "!"
  | .matchUnique => "!="
  | .rhyme => "&"
  | .grouping group pins => group.sigil ++ (if pins then "=" else "")

/-- One tie of a carrier: its kind and the name under which answers are remembered. -/
structure CarrierComponent where
  kind : CarrierKind
  id : String
deriving DecidableEq, Repr

def CarrierComponent.text (component : CarrierComponent) : String :=
  component.kind.sigil ++ component.id

structure Query where
  table : String
  subtype? : Option String
  /-- Whether entries may only have classes that the filter names. -/
  exclusive : Bool
  classFilter : ClassFilter
  regexFilters : List RegexFilter
  syllables? : Option SyllableRange
  carrier : List CarrierComponent

/-- The query for all entries of a table, in the first form. -/
def Query.all (table : String) : Query :=
  ⟨table, none, false, [], [], none, []⟩

end SeededText.Vocabulary
