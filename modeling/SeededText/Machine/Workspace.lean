import SeededText.Arithmetic.Evaluation
import SeededText.Choice.Synchronizers
import SeededText.Engine.Basic
import SeededText.Machine.Comparison
import SeededText.Machine.Fault
import SeededText.Machine.Repeater
import SeededText.Machine.Replacement
import SeededText.Output.Sink

/-!
Contract: what running code works on.

Code reads and changes the memory of its run and the sink that it writes to. Of what surrounds it,
it sees only the innermost: the comparison, the arguments of the subroutine, the match of the
replacer and the turn of the block that it runs in. These it cannot change.

Owns: memory, workspaces, scopes, and what is known where code runs.
Does not own: the stacks that a run keeps (`SeededText.Machine.Store`), what tokens and tags do.
-/

namespace SeededText.Machine

open Output Pattern SeededText.Random Vocabulary

/-- What a run keeps from its start to its end. -/
structure Memory where
  seed : UInt64
  generator : Generator
  targets : Targets
  markers : Table String Nat
  flags : List String
  synchronizers : Choice.Synchronizers
  history : CarrierHistory
  subroutines : Subroutines
  /-- By the name of the pattern and the name of the query. -/
  localQueries : Table (String × String) Query
  globalQueries : Table String Query
  valuation : Arithmetic.Valuation
  attributes : BlockAttributes
  numberFormat : NumberFormat

/-- The memory at the start of a run. -/
def Memory.fresh (engine : Engine) (seed : UInt64) : Memory where
  seed := seed
  generator := .ofSeed seed
  targets := .empty
  markers := .empty
  flags := engine.settings.flags
  synchronizers := .fresh seed
  history := .fresh
  subroutines := engine.subroutines
  localQueries := .empty
  globalQueries := .empty
  valuation := .empty
  attributes := .standard
  numberFormat := engine.settings.numberFormat

/-- What code works on: the memory of its run and the sink that it writes to. -/
structure Workspace extends Memory where
  sink : Sink

namespace Workspace

/-- The workspace of a pattern before its first token. -/
def fresh (engine : Engine) (seed : UInt64) : Workspace :=
  ⟨.fresh engine seed, .fresh⟩

/-- Changes the sink. -/
def onSink (workspace : Workspace) (change : Sink → Sink) : Workspace :=
  { workspace with sink := change workspace.sink }

def write (workspace : Workspace) (text : String) : Workspace :=
  if text.isEmpty then workspace else workspace.onSink (·.write text)

def writeInteger (workspace : Workspace) (number : Int) : Workspace :=
  workspace.write (workspace.numberFormat.writeInteger number)

def writeNumber (workspace : Workspace) (number : Float) : Workspace :=
  workspace.write (workspace.numberFormat.write number)

/-- Text of the main channel of a sink. -/
def textOf (workspace : Workspace) (sink : Sink) : String :=
  sink.mainText workspace.targets

end Workspace

/-- What code sees of what it runs in: of each sort the innermost. -/
structure Scope where
  comparison? : Option Comparison
  bindings? : Option (Table String Argument)
  found? : Option MatchData
  repeater? : Option Repeater

/-- The scope of a pattern that runs in nothing. -/
def Scope.outermost : Scope :=
  ⟨none, none, none, none⟩

/-- What is known where code runs. -/
structure Context where
  engine : Engine
  pattern : Pattern
  scope : Scope
  /-- Whether the last condition tested by this code did not hold. -/
  elseArmed : Bool

namespace Context

def fault (context : Context) (position : Position) (cause : Cause) : Fault :=
  ⟨context.pattern.name, position, cause⟩

def refuse {α : Type} (context : Context) (position : Position) (misuse : Misuse) :
    Except Fault α :=
  .error (context.fault position (.misused misuse))

def reject {α : Type} (context : Context) (position : Position) (malformation : Malformation) :
    Except Fault α :=
  .error (context.fault position (.malformed malformation))

/-- Passes a problem of brackets on. -/
def checkScope {α : Type} (context : Context) (result : Except (Located ScopeProblem) α) :
    Except Fault α :=
  result.mapError fun located =>
    context.fault located.position (.malformed (.scope located.problem))

@[simp] theorem checkScope_ok {α : Type} (context : Context) (value : α) :
    context.checkScope (.ok value) = .ok value := rfl

@[simp] theorem checkScope_error {α : Type} (context : Context) (located : Located ScopeProblem) :
    context.checkScope (.error located : Except _ α) =
      context.reject located.position (.scope located.problem) := rfl

end Context

end SeededText.Machine
