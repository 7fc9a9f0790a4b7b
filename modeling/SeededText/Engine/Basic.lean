import SeededText.Engine.Hooks
import SeededText.Engine.Settings
import SeededText.Machine.Subroutine
import SeededText.Vocabulary.Carrier

/-!
Contract: what all runs share.

Owns: the engine.
Does not own: running (`SeededText.Engine.Run`) and making an engine (`SeededText.Engine.Build`).
-/

namespace SeededText

structure Engine where
  settings : Settings
  lexicon? : Option Vocabulary.Lexicon
  rules : Vocabulary.CarrierRules
  hooks : Hooks
  /-- Subroutines that every run starts with. -/
  subroutines : Machine.Subroutines

/-- The engine with standard settings and nothing else. -/
def Engine.standard : Engine :=
  ⟨.standard, none, .standard, .none, .empty⟩

instance : Inhabited Engine := ⟨.standard⟩

end SeededText
