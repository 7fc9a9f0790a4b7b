import SeededText.Machine.Activation
import SeededText.Machine.Construct
import SeededText.Machine.Operation
import SeededText.Machine.Settlement
import SeededText.Machine.Store

/-!
Contract: what activations do between reading tokens, and what is done behind them.

Code that is to run is entered on top of the stack. What has to wait for it is left as a task of the
activation, or as a completion of the code that is entered. A task takes the text that code entered
before has made, and either comes to its end or enters more code and leaves what is left of it.

Owns: entering what constructs and tags ask for, tasks, completions.
Does not own: reading constructs (`SeededText.Machine.Construct`), the operations of tags
(`SeededText.Machine.Operation`), the stack of activations (`SeededText.Machine.Step`).
-/

namespace SeededText.Machine

open Pattern

/-- How the stack changes. -/
inductive Move where
  /-- Code is entered, the first of it lowest. -/
  | enter (entries : List Entry)
  /-- The stack is cut to where the innermost block was entered. -/
  | leaveBlock
deriving DecidableEq, Repr

/-- What the activation on top has done: the store, how the stack changes, whether an `else` may run
next, and a task that it leaves. -/
structure Progress where
  store : Store
  move : Move
  elseArmed : Bool
  task? : Option Task

namespace Context

/-- Only the store has changed. -/
def stay (context : Context) (store : Store) : Progress :=
  ⟨store, .enter [], context.elseArmed, none⟩

def enter (context : Context) (store : Store) (entry : Entry) : Progress :=
  ⟨store, .enter [entry], context.elseArmed, none⟩

/-- A task is left, and no code is entered. -/
def leaveTask (context : Context) (store : Store) (task : Task) : Progress :=
  ⟨store, .enter [], context.elseArmed, some task⟩

/-- Code runs into a sink of its own, and then a task takes its output. -/
def gather (context : Context) (store : Store) (code : Code) (task : Task) : Progress :=
  ⟨store, .enter [.apart code], context.elseArmed, some task⟩

/-! ### Constructs -/

/-- What is left of a construct becomes a task of the activation at the index `depth`. -/
def begin (context : Context) (store : Store) (depth : Nat) : Construct → Progress
  | .nothing => context.stay store
  | .block repeater =>
      context.leaveTask
        { store with
          repeaters := repeater :: store.repeaters
          bases := ⟨depth, store.heights⟩ :: store.bases }
        .takeTurn
  | .tag operation position planned =>
      context.leaveTask store (.callTag ⟨operation, position, .start planned⟩)
  | .call subroutine position planned =>
      context.leaveTask store (.callSubroutine ⟨subroutine, position, .start planned⟩)
  | .replacer regex input replacement => context.gather store input (.findMatches regex replacement)
  | .generated source => context.gather store source .runGenerated
  | .arithmetic isStatement position source =>
      context.gather store source (.settleArithmetic isStatement position)
  | .definition name parameters source =>
      context.gather store source (.defineGenerated name parameters)

/-! ### What tags ask for -/

end Context

/-- How the stack and the store change for what a tag asks for. -/
def Store.grant (store : Store) : Request → Store × Move
  | .nothing => (store, .enter [])
  | .run code => (store, .enter [.shared code])
  | .attempt trial fallback blankIsEmpty =>
      (store, .enter [⟨trial, true, some (.settleTrial fallback blankIsEmpty)⟩])
  | .compare comparison body =>
      ({ store with comparisons := comparison :: store.comparisons },
        .enter [⟨body, false, some .dropComparison⟩])
  | .leaveBlock => (store, .leaveBlock)

/-- Takes over what a tag has done to the workspace, and gives what it asks for. -/
def Store.follow (store : Store) (sink : Nat) (outcome : Outcome) : Progress :=
  let (store, move) := (store.absorb sink outcome.workspace).grant outcome.request
  ⟨store, move, outcome.elseArmed, none⟩

/-! ### Turns of blocks -/

namespace Context

/-- Enters the pieces of the next turn of the innermost repeater, or leaves its block. -/
def takeTurn (context : Context) (store : Store) (sink : Nat) : Progress :=
  match store.repeaters with
  | [] => context.stay store
  | repeater :: outer =>
      match repeater.advance with
      | (true, repeater) =>
          let (choice, workspace) := (store.workspace sink).chooseItem repeater
          ⟨{ store with repeaters := repeater :: outer }.absorb sink workspace,
            .enter ((repeater.pieces choice).reverse.map .shared), context.elseArmed,
            some .takeTurn⟩
      | (false, _) =>
          context.stay { store with repeaters := outer, bases := store.bases.tail }

/-! ### Arguments -/

end Context

/-- The arguments done so far, with the text that has been made for the one under way, and whatever
settles the next ones. -/
def Store.settlePlan (store : Store) (plan : ArgumentPlan) :
    Store × List Argument × Option (Code × List PlannedArgument) :=
  if plan.isAwaiting then
    (store.dropResult, ArgumentPlan.settle (plan.receive store.resultText).done plan.waiting)
  else (store, ArgumentPlan.settle plan.done plan.waiting)

/-- Arguments take nothing but results. -/
theorem Store.settlePlan_eq (store : Store) (plan : ArgumentPlan) :
    (store.settlePlan plan).1 = { store with results := (store.settlePlan plan).1.results } := by
  unfold settlePlan
  split <;> rfl

namespace Context

def resumeTag (context : Context) (store : Store) (sink : Nat) (call : TagCall) :
    Except Fault Progress :=
  match store.settlePlan call.plan with
  | (store, done, some (code, waiting)) =>
      .ok (context.gather store code (.callTag { call with plan := ⟨waiting, done, true⟩ }))
  | (store, done, none) =>
      ((Invocation.mk context call.position done).perform (store.workspace sink)
        call.operation).map (store.follow sink)

def resumeSubroutine (context : Context) (store : Store) (call : SubroutineCall) : Progress :=
  match store.settlePlan call.plan with
  | (store, done, some (code, waiting)) =>
      context.gather store code (.callSubroutine { call with plan := ⟨waiting, done, true⟩ })
  | (store, done, none) =>
      context.enter { store with bindings := call.subroutine.bind done :: store.bindings }
        ⟨call.subroutine.body, false, some .dropBindings⟩

/-! ### Replacers -/

/-- Makes the replacement of the next match, or prints what has been made. -/
def replaceNext (context : Context) (store : Store) (sink : Nat) (replacement : Replacement) :
    Progress :=
  match replacement.unread with
  | [] =>
      context.stay (store.absorb sink
        ((store.workspace sink).write (replacement.buffer ++ replacement.tail)))
  | (before, found) :: unread =>
      context.gather { store with matchStack := found :: store.matchStack } replacement.code
        (.replaceMatches
          { replacement with unread := unread, buffer := replacement.buffer ++ before })

/-- Goes on with a task. The activation writes to the given sink. -/
def resume (context : Context) (store : Store) (sink : Nat) : Task → Except Fault Progress
  | .takeTurn => .ok (context.takeTurn store sink)
  | .callTag call => context.resumeTag store sink call
  | .callSubroutine call => .ok (context.resumeSubroutine store call)
  | .findMatches regex code =>
      .ok (context.replaceNext store.dropResult sink (.start regex code store.resultText))
  | .replaceMatches replacement =>
      .ok (context.replaceNext { store.dropResult with matchStack := store.matchStack.tail } sink
        { replacement with buffer := replacement.buffer ++ store.resultText })
  | .runGenerated =>
      (context.generatedCode store.resultText).map fun code =>
        context.enter store.dropResult (.shared code)
  | .settleArithmetic isStatement position =>
      (context.settleArithmetic (store.workspace sink) isStatement position
        store.resultText).map fun workspace => context.stay (store.dropResult.absorb sink workspace)
  | .defineGenerated name parameters =>
      (context.defineGenerated (store.workspace sink) name parameters
        store.resultText).map fun workspace => context.stay (store.dropResult.absorb sink workspace)

/-! ### Completions -/

/-- What is done behind an activation, seen from the one beneath it, which writes to the given
sink. -/
def complete (context : Context) (store : Store) (sink : Nat) : Completion → Progress
  | .dropComparison => context.stay { store with comparisons := store.comparisons.tail }
  | .dropBindings => context.stay { store with bindings := store.bindings.tail }
  | .settleTrial fallback blankIsEmpty =>
      if isNothing blankIsEmpty store.resultText then
        context.enter store.dropResult (.shared fallback)
      else
        context.stay (store.dropResult.absorb sink
          ((store.workspace sink).onSink store.topResult.mergeInto))

end Context

end SeededText.Machine
