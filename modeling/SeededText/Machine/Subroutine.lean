import SeededText.Machine.Tag
import SeededText.Pattern.Scope
import SeededText.Table

/-!
Contract: arguments of calls and the subroutines that patterns define.

Owns: arguments and the plan of their evaluation, subroutines, bindings.
Does not own: the evaluation itself (`SeededText.Machine.Task`).
-/

namespace SeededText.Machine

open Pattern

inductive Argument where
  | value (text : String)
  | code (code : Code)
deriving DecidableEq, Repr

/-- Text of a value, or the given text in place of code. -/
def Argument.textOr (absent : String) : Argument → String
  | .value text => text
  | .code _ => absent

def Argument.code? : Argument → Option Code
  | .value _ => none
  | .code body => some body

/-- An argument as it is written, and whether its code is passed on without being run. -/
structure PlannedArgument where
  code : Code
  isDeferred : Bool
deriving DecidableEq, Repr

/-- Arguments of a call, of which some are done. -/
structure ArgumentPlan where
  waiting : List PlannedArgument
  done : List Argument
  /-- Whether code is under way for the argument between the done and the waiting ones. -/
  isAwaiting : Bool
deriving DecidableEq, Repr

namespace ArgumentPlan

/-- The plan of a call of a tag. -/
def ofParameters : List Code → List Parameter → List PlannedArgument
  | [], _ => []
  | code :: codes, parameters =>
      ⟨code, parameters.head? = some .code⟩ :: ofParameters codes parameters.tail

def start (planned : List PlannedArgument) : ArgumentPlan :=
  ⟨planned, [], false⟩

/-- Adds the text that the code under way has given. -/
def receive (plan : ArgumentPlan) (text : String) : ArgumentPlan :=
  { plan with done := plan.done ++ [.value text], isAwaiting := false }

/-- Takes the waiting arguments that need no evaluation up to the first that does: the arguments
done, and the code of that one with those behind it. -/
def settle :
    List Argument → List PlannedArgument → List Argument × Option (Code × List PlannedArgument)
  | done, [] => (done, none)
  | done, planned :: waiting =>
      if planned.isDeferred then settle (done ++ [.code planned.code]) waiting
      else if planned.code.isVerbatim then settle (done ++ [.value planned.code.text]) waiting
      else (done, some (planned.code, waiting))

theorem length_settle {done : List Argument} {waiting rest : List PlannedArgument}
    {settled : List Argument} {code : Code}
    (found : settle done waiting = (settled, some (code, rest))) :
    rest.length < waiting.length := by
  induction waiting generalizing done with
  | nil => simp [settle] at found
  | cons planned waiting inductionHypothesis =>
      simp only [settle] at found
      split at found
      · exact Nat.lt_succ_of_lt (inductionHypothesis found)
      · split at found
        · exact Nat.lt_succ_of_lt (inductionHypothesis found)
        · simp only [Prod.mk.injEq, Option.some.injEq] at found
          exact found.2.2 ▸ Nat.lt_succ_self _

end ArgumentPlan

structure SubroutineParameter where
  name : String
  /-- Whether the parameter takes code instead of a value. -/
  isCode : Bool
deriving DecidableEq, Repr

structure Subroutine where
  name : String
  parameters : List SubroutineParameter
  body : Code
deriving DecidableEq, Repr

/-- Subroutines by name and number of parameters. -/
abbrev Subroutines := Table (String × Nat) Subroutine

namespace Subroutine

/-- The plan of a call with the given arguments. -/
def plan (subroutine : Subroutine) (codes : List Code) : List PlannedArgument :=
  codes.zipWith (fun code parameter => ⟨code, parameter.isCode⟩) subroutine.parameters

/-- The arguments by the names of their parameters; of two parameters of one name the later
counts. -/
def bind (subroutine : Subroutine) (arguments : List Argument) : Table String Argument :=
  (subroutine.parameters.zip arguments).foldl
    (fun bindings entry => bindings.insert entry.1.name entry.2) .empty

end Subroutine

/-- The table with a definition, which replaces one of the same name and number of parameters. -/
def Subroutines.define (subroutines : Subroutines) (subroutine : Subroutine) : Subroutines :=
  subroutines.insert (subroutine.name, subroutine.parameters.length) subroutine

end SeededText.Machine
