import SeededText.Engine.Run
import SeededText.Machine.Construct
import SeededText.Machine.Operation
import SeededText.Machine.Settlement

/-!
Contract: what a pattern prints, by recursion over its constructs.

Code is walked over token by token, and what a construct needs is evaluated to its end before the
next token is read. Code whose text is needed is evaluated into a fresh sink; other code writes
where the code around it does. `break` ends the evaluation of all code up to the innermost block.

Patterns may call themselves, so an evaluation has a depth to which code may be nested, and gives
nothing if that does not suffice.

Owns: evaluations and their ways to end, the evaluator.
Does not own: what constructs, tags and texts do by themselves (`SeededText.Machine.Construct`,
`SeededText.Machine.Operation`, `SeededText.Machine.Settlement`), the stack of a run.
-/

namespace SeededText.Machine

open Output Pattern

/-! ### Evaluations -/

/-- Why an evaluation stops before its end. -/
inductive Exit where
  | leftBlock
  | failed (fault : Fault)

/-- Changes a workspace and gives a value, or stops with the workspace as it then is. It gives
nothing if code is nested too deep. -/
def Evaluation (α : Type) : Type :=
  Workspace → Option (Workspace × Except Exit α)

namespace Evaluation

variable {α β : Type}

def pure (value : α) : Evaluation α :=
  fun workspace => some (workspace, .ok value)

def bind (first : Evaluation α) (next : α → Evaluation β) : Evaluation β :=
  fun workspace =>
    match first workspace with
    | none => none
    | some (workspace, .error exit) => some (workspace, .error exit)
    | some (workspace, .ok value) => next value workspace

instance : Monad Evaluation where
  pure := pure
  bind := bind

def stop (exit : Exit) : Evaluation α :=
  fun workspace => some (workspace, .error exit)

/-- Does something to the workspace; if that fails, the workspace has not changed. -/
def act (action : Workspace → Except Fault (Workspace × α)) : Evaluation α :=
  fun workspace =>
    match action workspace with
    | .ok (workspace, value) => some (workspace, .ok value)
    | .error fault => some (workspace, .error (.failed fault))

theorem act_of_ok {action : Workspace → Except Fault (Workspace × α)}
    {workspace reached : Workspace} {value : α} (acted : action workspace = .ok (reached, value)) :
    act action workspace = some (reached, .ok value) := by
  rw [act, acted]

theorem act_of_error {action : Workspace → Except Fault (Workspace × α)} {workspace : Workspace}
    {fault : Fault} (failed : action workspace = .error fault) :
    act action workspace = some (workspace, .error (.failed fault)) := by
  rw [act, failed]

/-- Reads something off the workspace. -/
def look (view : Workspace → α) : Evaluation α :=
  fun workspace => some (workspace, .ok (view workspace))

def change (action : Workspace → Workspace) : Evaluation Unit :=
  fun workspace => some (action workspace, .ok ())

theorem bind_of_ok {first : Evaluation α} {next : α → Evaluation β} {workspace reached : Workspace}
    {value : α} (evaluated : first workspace = some (reached, .ok value)) :
    (first >>= next) workspace = next value reached := by
  show bind first next workspace = _
  rw [bind, evaluated]

theorem bind_of_error {first : Evaluation α} {next : α → Evaluation β}
    {workspace reached : Workspace} {exit : Exit}
    (evaluated : first workspace = some (reached, .error exit)) :
    (first >>= next) workspace = some (reached, .error exit) := by
  show bind first next workspace = _
  rw [bind, evaluated]

theorem bind_assoc {γ : Type} (first : Evaluation α) (next : α → Evaluation β)
    (last : β → Evaluation γ) (workspace : Workspace) :
    ((first >>= next) >>= last) workspace =
      (first >>= fun value => next value >>= last) workspace := by
  show bind (bind first next) last workspace = bind first _ workspace
  unfold bind
  cases first workspace with
  | none => rfl
  | some reached =>
      obtain ⟨reached, value | exit⟩ := reached <;> rfl

/-- Goes on behind a block that was left. -/
def untilLeft (evaluation : Evaluation Unit) : Evaluation Unit :=
  fun workspace =>
    match evaluation workspace with
    | some (workspace, .error .leftBlock) => some (workspace, .ok ())
    | other => other

theorem untilLeft_of_ok {first : Evaluation α} {next : α → Evaluation Unit}
    {workspace reached : Workspace} {value : α}
    (evaluated : first workspace = some (reached, .ok value)) :
    (first >>= next).untilLeft workspace = (next value).untilLeft reached := by
  rw [untilLeft, bind_of_ok evaluated, untilLeft]

/-- Writes to a fresh sink, and gives that sink. However it ends, what was written before is left
alone. -/
def apart (evaluation : Evaluation Unit) : Evaluation Sink :=
  fun workspace =>
    match evaluation { workspace with sink := .fresh } with
    | none => none
    | some (inner, .error exit) => some ({ inner with sink := workspace.sink }, .error exit)
    | some (inner, .ok ()) => some ({ inner with sink := workspace.sink }, .ok inner.sink)

theorem apart_of_ok {evaluation : Evaluation Unit} {workspace made : Workspace}
    (evaluated : evaluation { workspace with sink := .fresh } = some (made, .ok ())) :
    evaluation.apart workspace = some ({ made with sink := workspace.sink }, .ok made.sink) := by
  rw [apart, evaluated]

/-- Writes to a fresh sink, and gives the text of its main channel. -/
def text (evaluation : Evaluation Unit) : Evaluation String := do
  let sink ← evaluation.apart
  look fun workspace => workspace.textOf sink

end Evaluation

open Evaluation

/-! ### Constructs -/

/-- Evaluates code in a scope. -/
abbrev Evaluator := Scope → Code → Evaluation Unit

namespace Evaluator

section Constructs

-- The evaluator is for code inside the construct.
variable (evaluate : Evaluator) (scope : Scope)

/-- An argument; code that is passed on is not evaluated. -/
def argument (planned : PlannedArgument) : Evaluation Argument :=
  if planned.isDeferred then return .code planned.code
  else do return .value (← (evaluate scope planned.code).text)

/-- Arguments, the first of them first. -/
def arguments : List PlannedArgument → Evaluation (List Argument)
  | [] => return []
  | planned :: waiting => do
      let first ← argument evaluate scope planned
      return first :: (← arguments waiting)

/-- What a tag asks for. -/
def request : Request → Evaluation Unit
  | .nothing => return ()
  | .run code => evaluate scope code
  | .attempt trial fallback blankIsEmpty => do
      let sink ← (evaluate scope trial).apart
      let text ← look fun workspace => workspace.textOf sink
      if isNothing blankIsEmpty text then evaluate scope fallback
      else change fun workspace => workspace.onSink sink.mergeInto
  | .compare comparison body => evaluate { scope with comparison? := some comparison } body
  | .leaveBlock => stop .leftBlock

def pieces : List Code → Evaluation Unit
  | [] => return ()
  | piece :: others => do
      evaluate scope piece
      pieces others

/-- Chooses the item of a turn. -/
def chooseItem (repeater : Repeater) : Evaluation Nat :=
  fun workspace =>
    let (choice, workspace) := workspace.chooseItem repeater
    some (workspace, .ok choice)

/-- The turns that are left to a repeater. -/
def turns (repeater : Repeater) : Evaluation Unit :=
  match _ : repeater.advance with
  | (false, _) => return ()
  | (true, advanced) => do
      let choice ← chooseItem advanced
      pieces evaluate { scope with repeater? := some advanced } (advanced.pieces choice)
      turns advanced
termination_by repeater.remaining
decreasing_by exact Repeater.remaining_advance ‹_›

/-- The text up to the end of the last match, with a replacement for each match. -/
def replacements (code : Code) : List (String × MatchData) → Evaluation String
  | [] => return ""
  | (before, found) :: unread => do
      let text ← (evaluate { scope with found? := some found } code).text
      return before ++ text ++ (← replacements code unread)

end Constructs

/-- What is left of a construct that has been read. Gives whether an `else` may run next. -/
def construct (evaluate : Evaluator) (context : Context) : Construct → Evaluation Bool
  | .nothing => return context.elseArmed
  | .block repeater => do
      (evaluate.turns context.scope repeater).untilLeft
      return context.elseArmed
  | .tag operation position planned => do
      let arguments ← evaluate.arguments context.scope planned
      let (asked, elseArmed) ← act fun workspace => do
        let outcome ← (Invocation.mk context position arguments).perform workspace operation
        return (outcome.workspace, outcome.request, outcome.elseArmed)
      evaluate.request context.scope asked
      return elseArmed
  | .call subroutine _ planned => do
      let arguments ← evaluate.arguments context.scope planned
      evaluate { context.scope with bindings? := some (subroutine.bind arguments) } subroutine.body
      return context.elseArmed
  | .replacer regex input code => do
      let text ← (evaluate context.scope input).text
      let replacement := Replacement.start regex code text
      let replaced ← evaluate.replacements context.scope code replacement.unread
      change fun workspace => workspace.write (replaced ++ replacement.tail)
      return context.elseArmed
  | .generated source => do
      let text ← (evaluate context.scope source).text
      let code ← act fun workspace => do return (workspace, ← context.generatedCode text)
      evaluate context.scope code
      return context.elseArmed
  | .arithmetic isStatement position source => do
      let text ← (evaluate context.scope source).text
      act fun workspace => do
        return (← context.settleArithmetic workspace isStatement position text, ())
      return context.elseArmed
  | .definition name parameters source => do
      let text ← (evaluate context.scope source).text
      act fun workspace => do
        return (← context.defineGenerated workspace name parameters text, ())
      return context.elseArmed

/-! ### Code -/

/-- Code from the token at `cursor` on. -/
def codeFrom (engine : Engine) (evaluate : Evaluator) (scope : Scope) (code : Code) (cursor : Nat)
    (elseArmed : Bool) : Evaluation Unit :=
  match _ : code.tokenAt? cursor with
  | none => return ()
  | some token =>
      let context : Context := ⟨engine, code.pattern, scope, elseArmed⟩
      match _ : context.constructStop cursor token with
      | .error fault => stop (.failed fault)
      | .ok behind => do
          let read ← act fun workspace => context.readConstruct workspace cursor behind token
          let elseArmed ← construct evaluate context read
          codeFrom engine evaluate scope code behind elseArmed
termination_by code.span.stop - cursor
decreasing_by
  have inside := Code.lt_stop_of_tokenAt? ‹_›
  have ahead := Context.lt_of_constructStop ‹_›
  omega

section Walking

variable {engine : Engine} {evaluate : Evaluator} {scope : Scope} {code : Code} {cursor : Nat}
  {elseArmed : Bool} {token : Token}

theorem codeFrom_of_end (ended : code.tokenAt? cursor = none) :
    codeFrom engine evaluate scope code cursor elseArmed = return () := by
  rw [codeFrom]
  split
  · rfl
  · next next =>
      rw [ended] at next
      cases next

theorem codeFrom_of_fault {fault : Fault} (next : code.tokenAt? cursor = some token)
    (unstopped : Context.constructStop ⟨engine, code.pattern, scope, elseArmed⟩ cursor token =
      .error fault) :
    codeFrom engine evaluate scope code cursor elseArmed = stop (.failed fault) := by
  rw [codeFrom]
  split
  · next ended =>
      rw [ended] at next
      cases next
  · next other next' =>
      cases next.symm.trans next'
      simp only
      split
      · next failed =>
          cases unstopped.symm.trans failed
          rfl
      · next stopped =>
          cases unstopped.symm.trans stopped

theorem codeFrom_of_token {behind : Nat} (next : code.tokenAt? cursor = some token)
    (stopped : Context.constructStop ⟨engine, code.pattern, scope, elseArmed⟩ cursor token =
      .ok behind) :
    codeFrom engine evaluate scope code cursor elseArmed = (do
      let context : Context := ⟨engine, code.pattern, scope, elseArmed⟩
      let read ← act fun workspace => context.readConstruct workspace cursor behind token
      let elseArmed ← construct evaluate context read
      codeFrom engine evaluate scope code behind elseArmed) := by
  rw [codeFrom]
  split
  · next ended =>
      rw [ended] at next
      cases next
  · next other next' =>
      cases next.symm.trans next'
      simp only
      split
      · next failed =>
          cases stopped.symm.trans failed
      · next stopped' =>
          cases stopped.symm.trans stopped'
          rfl

theorem codeFrom_of_unread {behind : Nat} {workspace : Workspace} {fault : Fault}
    (next : code.tokenAt? cursor = some token)
    (stopped : Context.constructStop ⟨engine, code.pattern, scope, elseArmed⟩ cursor token =
      .ok behind)
    (unread : Context.readConstruct ⟨engine, code.pattern, scope, elseArmed⟩ workspace cursor behind
      token = .error fault) :
    codeFrom engine evaluate scope code cursor elseArmed workspace =
      some (workspace, .error (.failed fault)) := by
  have failed : act (fun workspace => Context.readConstruct
      ⟨engine, code.pattern, scope, elseArmed⟩ workspace cursor behind token) workspace =
      some (workspace, .error (.failed fault)) := act_of_error unread
  rw [codeFrom_of_token next stopped]
  exact bind_of_error failed

theorem codeFrom_of_read {behind : Nat} {workspace reached : Workspace} {construct : Construct}
    (next : code.tokenAt? cursor = some token)
    (stopped : Context.constructStop ⟨engine, code.pattern, scope, elseArmed⟩ cursor token =
      .ok behind)
    (read : Context.readConstruct ⟨engine, code.pattern, scope, elseArmed⟩ workspace cursor behind
      token = .ok (reached, construct)) :
    codeFrom engine evaluate scope code cursor elseArmed workspace =
      (do
        let elseArmed ← evaluate.construct ⟨engine, code.pattern, scope, elseArmed⟩ construct
        codeFrom engine evaluate scope code behind elseArmed : Evaluation Unit) reached := by
  have acted : act (fun workspace => Context.readConstruct
      ⟨engine, code.pattern, scope, elseArmed⟩ workspace cursor behind token) workspace =
      some (reached, .ok construct) := act_of_ok read
  rw [codeFrom_of_token next stopped]
  exact bind_of_ok acted

end Walking

/-- Code in which other code may be nested up to a depth. -/
def nested (engine : Engine) : Nat → Evaluator
  | 0 => fun _ _ _ => none
  | depth + 1 => fun scope code =>
      codeFrom engine (nested engine depth) scope code code.span.start false

end Evaluator

/-- Evaluates a pattern with a seed. -/
def evaluate (engine : Engine) (depth : Nat) (pattern : Pattern) (seed : UInt64) :
    Option (Workspace × Except Exit Unit) :=
  Evaluator.nested engine depth .outermost (.whole pattern) (.fresh engine seed)

/-- How an evaluation ends if a run ends with the given fault, or with none. -/
def endingOf : Option Fault → Except Exit Unit
  | none => .ok ()
  | some fault => .error (.failed fault)

/-- What is reported of an output, with the fault before which it was written, if there is one. -/
def reportOf (output : List ChannelOutput) : Option Fault → Except Failure (List ChannelOutput)
  | none => .ok output
  | some fault => .error ⟨fault, output⟩

/-- Report of a pattern with a seed, as its evaluation gives it. -/
def evaluateReport (engine : Engine) (depth : Nat) (pattern : Pattern) (seed : UInt64) :
    Option (Except Failure (List ChannelOutput)) :=
  match evaluate engine depth pattern seed with
  | some (workspace, .ok ()) => some (reportOf (workspace.sink.output workspace.targets) none)
  | some (workspace, .error (.failed fault)) =>
      some (reportOf (workspace.sink.output workspace.targets) (some fault))
  | _ => none

end SeededText.Machine
