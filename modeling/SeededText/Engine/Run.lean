import SeededText.Machine.Run

/-!
Contract: running patterns on an engine.

Owns: the output of a run, a run that fails with what it has written, the subroutines that a run
leaves behind.
Does not own: the steps of a run (`SeededText.Machine.Run`).
-/

namespace SeededText

open Machine Output

/-- A run that stopped before its end. -/
structure Failure where
  fault : Fault
  /-- What had been written. -/
  written : List ChannelOutput
deriving DecidableEq, Repr

namespace Engine

/-- Output of a pattern with a seed. -/
def run (engine : Engine) (pattern : Pattern) (seed : UInt64) :
    Except Failure (List ChannelOutput) :=
  match Machine.run engine pattern seed with
  | (store, none) => .ok store.output
  | (store, some fault) => .error ⟨fault, store.output⟩

/-- Compiles a source and runs it. A source that does not compile writes nothing. -/
def runSource (engine : Engine) (name source : String) (seed : UInt64) :
    Except Failure (List ChannelOutput) :=
  match Machine.compile name source with
  | .error fault => .error ⟨fault, []⟩
  | .ok pattern => engine.run pattern seed

/-- The main texts of `count` runs with consecutive seeds. A run that fails gives what it had
written. -/
def variants (engine : Engine) (name source : String) (seed : UInt64) (count : Nat) :
    Except Fault (List String) := do
  let pattern ← Machine.compile name source
  return (List.range count).map fun offset =>
    match engine.run pattern (seed + UInt64.ofNat offset) with
    | .ok output => mainOutput output
    | .error failure => mainOutput failure.written

/-- The engine with the subroutines that a pattern defines. -/
def learn (engine : Engine) (pattern : Pattern) : Except Fault Engine :=
  match Machine.run engine pattern 0 with
  | (store, none) => .ok { engine with subroutines := store.subroutines }
  | (_, some fault) => .error fault

end Engine

end SeededText
