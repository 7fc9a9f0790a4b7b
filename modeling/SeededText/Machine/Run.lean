import SeededText.Machine.Termination

/-!
Contract: whole runs.

A run takes steps until its stack is empty or a step fails. What was written before a failure is not
lost.

Owns: the iteration of steps and its outcome.
Does not own: the step (`SeededText.Machine.Step`), why the iteration ends
(`SeededText.Machine.Termination`).
-/

namespace SeededText.Machine

instance (height : Nat) : WellFoundedRelation (Rank height) :=
  ⟨Rank.Lower height, Rank.wellFounded_lower height⟩

/-- Takes steps to the end. Gives the store, and the fault if a step failed; then the store is the
one before that step. -/
def runStack (engine : Engine) (store : Store) (stack : List Activation)
    (wellStacked : WellStacked engine ⟨store, stack⟩) : Store × Option Fault :=
  match stack with
  | [] => (store, none)
  | top :: beneath =>
      match stepped : Configuration.step engine store top beneath with
      | .error fault => (store, some fault)
      | .ok reached =>
          runStack engine reached.store reached.stack (wellStacked.step stepped)
termination_by Configuration.rank (heightLimit engine) ⟨store, stack⟩
decreasing_by exact Configuration.lower_step wellStacked stepped

/-- Runs a pattern with a seed. -/
def run (engine : Engine) (pattern : Pattern) (seed : UInt64) : Store × Option Fault :=
  let configuration := Configuration.start engine pattern seed
  runStack engine configuration.store configuration.stack (.start engine pattern seed)

end SeededText.Machine
