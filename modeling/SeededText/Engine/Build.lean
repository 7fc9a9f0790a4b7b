import SeededText.Engine.Run
import SeededText.Vocabulary.Dictionary

/-!
Contract: making an engine.

An engine is made of settings, a lexicon, carrier rules, hooks and a prelude: patterns that run
once, in order, for the subroutines they define. Settings and dictionaries may be given as texts.

Owns: the order of these, what may be wrong with them.
Does not own: files (`SeededText.Tools.Files`).
-/

namespace SeededText

open Vocabulary

/-- Why there is no engine. -/
inductive LoadFault where
  | data (fault : Data.Fault)
  | dictionary (table : String) (index : Nat) (problem : EntryProblem)
  | subroutines (fault : Machine.Fault)
deriving DecidableEq, Repr

def LoadFault.message : LoadFault → String
  | .data fault => "malformed data: " ++ fault.message
  | .dictionary table index problem =>
      "invalid dictionary: " ++ invalidEntryMessage table index problem
  | .subroutines fault => "predefined subroutines failed: " ++ fault.text

/-- A pattern that is run for its subroutines. -/
structure PreludePattern where
  name : String
  source : String
deriving DecidableEq, Repr

def loadSettings (text : String) : Except LoadFault Settings :=
  (Settings.parse text).mapError .data

def loadDictionary (text : String) : Except LoadFault Dictionary :=
  match Dictionary.parse text with
  | .ok dictionary => .ok dictionary
  | .error (.unreadable fault) => .error (.data fault)
  | .error (.invalidEntry table index problem) => .error (.dictionary table index problem)

/-- The dictionaries that texts write, merged in order. -/
def loadDictionaries (texts : List String) : Except LoadFault Dictionary :=
  texts.foldlM (fun dictionary text => do return dictionary.merge (← loadDictionary text)) .empty

namespace Engine

/-- Runs a prelude; each pattern knows the subroutines of those before. -/
def withPrelude (engine : Engine) : List PreludePattern → Except Machine.Fault Engine
  | [] => .ok engine
  | entry :: entries => do
      let pattern ← Machine.compile entry.name entry.source
      let engine ← engine.learn pattern
      engine.withPrelude entries

/-- The engine of a written dictionary and written settings, either of which may be blank or
missing. -/
def ofTexts (dictionary : String) (settings? : Option String) : Except LoadFault Engine := do
  let settings ←
    match settings?.filter fun text => !Text.isBlankText text with
    | some text => loadSettings text
    | none => .ok .standard
  let dictionary? ←
    if Text.isBlankText dictionary then .ok none else some <$> loadDictionary dictionary
  return { standard with
    settings := settings, lexicon? := dictionary?.map Dictionary.lexicon }

end Engine

end SeededText
