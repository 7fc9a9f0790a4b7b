import SeededText.Machine.Replacement
import SeededText.Machine.Subroutine

/-!
Contract: code under way.

An activation walks over the tokens of its code. A construct that needs other code to run first
queues a task with the activation, which is taken up again when that code is done. A completion is
what remains to be done when an activation itself is done.

Owns: tasks, completions, activations.
Does not own: what tasks and tokens do.
-/

namespace SeededText.Machine

open Pattern

structure TagCall where
  operation : TagOperation
  position : Position
  plan : ArgumentPlan
deriving Repr

structure SubroutineCall where
  subroutine : Subroutine
  position : Position
  plan : ArgumentPlan
deriving Repr

/-- What an activation has to do before it reads on. -/
inductive Task where
  /-- Takes the next turn of the innermost repeater. -/
  | takeTurn
  | callTag (call : TagCall)
  | callSubroutine (call : SubroutineCall)
  /-- Finds the matches of a regex in the text that has been made. -/
  | findMatches (regex : Regex) (code : Code)
  /-- Takes the text that has been made for a match, and goes on to the next. -/
  | replaceMatches (replacement : Replacement)
  /-- Runs the text that has been made as a pattern. -/
  | runGenerated
  /-- Evaluates the text that has been made. -/
  | settleArithmetic (isStatement : Bool) (position : Position)
  /-- Makes the text that has been made the body of a subroutine. -/
  | defineGenerated (name : String) (parameters : List SubroutineParameter)

/-- What remains to be done behind an activation. -/
inductive Completion where
  | dropComparison
  | dropBindings
  /-- Takes the output of a trial over, or runs other code if it is empty. -/
  | settleTrial (fallback : Code) (blankIsEmpty : Bool)
deriving DecidableEq, Repr

structure Activation where
  code : Code
  /-- Index of the next token. -/
  cursor : Nat
  /-- What it has to do before it reads the next token, the first to be done in front. -/
  tasks : List Task
  completion? : Option Completion
  /-- Index of the sink it writes to. -/
  sink : Nat
  /-- Whether it is the first to write to that sink. -/
  ownsSink : Bool
  /-- Whether the last condition tested here did not hold, so that an `else` runs. -/
  elseArmed : Bool

/-- Code that is to be entered, with a sink of its own or with that of the code it is entered
from. -/
structure Entry where
  code : Code
  ownsSink : Bool
  completion? : Option Completion
deriving DecidableEq, Repr

namespace Entry

/-- Code that writes where the present activation does. -/
def shared (code : Code) : Entry := ⟨code, false, none⟩

/-- Code that writes to a sink of its own. -/
def apart (code : Code) : Entry := ⟨code, true, none⟩

end Entry

namespace Activation

/-- An activation at the start of its code. -/
def enter (entry : Entry) (sink : Nat) : Activation where
  code := entry.code
  cursor := entry.code.span.start
  tasks := []
  completion? := entry.completion?
  sink := sink
  ownsSink := entry.ownsSink
  elseArmed := false

def pattern (activation : Activation) : Pattern :=
  activation.code.pattern

/-- The token to read next, if the code is not at its end. -/
def nextToken? (activation : Activation) : Option Token :=
  activation.code.tokenAt? activation.cursor

/-- Place of the token read last. -/
def position (activation : Activation) : Position :=
  activation.pattern.positionAt (activation.cursor - 1)

end Activation

end SeededText.Machine
