import SeededText.Choice.Synchronizer
import SeededText.Random.NameSeed
import SeededText.Table

/-!
Contract: the synchronizers of a run by name.

Every name has a stream of its own, seeded from the run's seed and the name. At most one
synchronizer is active: blocks draw from it.

Owns: creation, activation, look-up.
Does not own: what one synchronizer does (`SeededText.Choice.Synchronizer`).
-/

namespace SeededText.Choice

open SeededText.Random

structure Synchronizers where
  runSeed : UInt64
  table : Table String Synchronizer
  activeName? : Option String
deriving Repr

namespace Synchronizers

def fresh (runSeed : UInt64) : Synchronizers :=
  ⟨runSeed, .empty, none⟩

def find? (synchronizers : Synchronizers) (name : String) : Option Synchronizer :=
  synchronizers.table.find? name

def set (synchronizers : Synchronizers) (name : String) (synchronizer : Synchronizer) :
    Synchronizers :=
  { synchronizers with table := synchronizers.table.insert name synchronizer }

/-- Makes `name` active and creates it if there is none; an existing one keeps its kind. -/
def activate (synchronizers : Synchronizers) (name : String) (kind : SynchronizerKind) :
    Synchronizers :=
  { synchronizers with
    table := synchronizers.table.insertIfNew name
      (.fresh kind (deriveSeed synchronizers.runSeed name))
    activeName? := some name }

/-- Leaves no synchronizer active. -/
def deactivate (synchronizers : Synchronizers) : Synchronizers :=
  { synchronizers with activeName? := none }

/-- The active synchronizer with its name. -/
def active? (synchronizers : Synchronizers) : Option (String × Synchronizer) := do
  let name ← synchronizers.activeName?
  let synchronizer ← synchronizers.find? name
  return (name, synchronizer)

/-- Changes the synchronizer `name`, if there is one. -/
def update? (synchronizers : Synchronizers) (name : String)
    (change : Synchronizer → Synchronizer) : Option Synchronizers :=
  (synchronizers.find? name).map fun synchronizer => synchronizers.set name (change synchronizer)

/-- Starts the synchronizer `name` again from a seed derived from any text, if there is one. -/
def reseed? (synchronizers : Synchronizers) (name seed : String) : Option Synchronizers :=
  synchronizers.update? name fun synchronizer =>
    synchronizer.reseed (deriveSeed synchronizers.runSeed seed)

end Synchronizers

end SeededText.Choice
