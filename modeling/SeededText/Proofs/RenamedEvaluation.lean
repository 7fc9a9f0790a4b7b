import SeededText.Proofs.Evaluation
import SeededText.Proofs.RenamedOperations

/-!
Contract: the evaluation of a renamed pattern.

It takes the same way as that of the pattern, with all names renamed: it writes the same, draws the
same, and stops at the same place for the same reason.

Owns: evaluations that follow each other under a renaming, evaluators at every depth.
Does not own: single constructs and tags (`SeededText.Proofs.RenamedReading`,
`SeededText.Proofs.RenamedOperations`).
-/

namespace SeededText.Machine

open Pattern Output Evaluator Evaluation

variable (front : String)

/-! ### Evaluations -/

def Exit.renamed : Exit → Exit
  | .leftBlock => .leftBlock
  | .failed fault => .failed (fault.renamed front)

section Ends

variable {α β : Type}

/-- How a renamed evaluation ends. -/
def renamedEnd (change : α → β) : Except Exit α → Except Exit β
  | .ok value => .ok (change value)
  | .error exit => .error (exit.renamed front)

/-- From the renamed workspace, the second evaluation reaches what the first does, renamed. -/
def Evaluation.Follows (change : α → β) (first : Evaluation α) (second : Evaluation β) : Prop :=
  ∀ workspace, second (workspace.renamed front) =
    (first workspace).map (Prod.map (Workspace.renamed front) (renamedEnd front change))

end Ends

namespace Evaluation.Follows

variable {α β γ δ : Type} {front : String} {between : α → β} {change : γ → δ}

theorem value (value : α) :
    Follows front between (Pure.pure value) (Pure.pure (between value)) := fun _ => rfl

theorem stop (exit : Exit) :
    Follows front between (Evaluation.stop exit) (Evaluation.stop (exit.renamed front)) :=
  fun _ => rfl

theorem bind {first : Evaluation α} {second : Evaluation β} {next : α → Evaluation γ}
    {next' : β → Evaluation δ} (follows : Follows front between first second)
    (all : ∀ value, Follows front change (next value) (next' (between value))) :
    Follows front change (first >>= next) (second >>= next') := by
  intro workspace
  show Evaluation.bind second next' _ = (Evaluation.bind first next workspace).map _
  rw [Evaluation.bind, Evaluation.bind, follows workspace]
  rcases first workspace with _ | ⟨reached, exit | value⟩
  · rfl
  · rfl
  · exact all value reached

theorem act {action : Workspace → Except Fault (Workspace × α)}
    {action' : Workspace → Except Fault (Workspace × β)}
    (carries : ∀ workspace, Carries front (Prod.map (Workspace.renamed front) between)
      (action workspace) (action' (workspace.renamed front))) :
    Follows front between (Evaluation.act action) (Evaluation.act action') := by
  intro workspace
  have carried := carries workspace
  rw [Evaluation.act, Evaluation.act]
  generalize action workspace = result at carried
  generalize action' (workspace.renamed front) = result' at carried
  cases carried with
  | ok value => rfl
  | error fault => rfl

theorem look {view view' : Workspace → α}
    (same : ∀ workspace, view' (workspace.renamed front) = view workspace) :
    Follows front id (Evaluation.look view) (Evaluation.look view') := by
  intro workspace
  show some (workspace.renamed front, Except.ok (view' _)) = _
  rw [same workspace]
  rfl

theorem alter {action action' : Workspace → Workspace}
    (same : ∀ workspace, action' (workspace.renamed front) = (action workspace).renamed front) :
    Follows front id (Evaluation.change action) (Evaluation.change action') := by
  intro workspace
  show some (action' (workspace.renamed front), Except.ok ()) = _
  rw [same workspace]
  rfl

section Units

variable {first second : Evaluation Unit} (follows : Follows front id first second)
include follows

theorem untilLeft : Follows front id first.untilLeft second.untilLeft := by
  intro workspace
  rw [Evaluation.untilLeft, Evaluation.untilLeft, follows workspace]
  rcases first workspace with _ | ⟨reached, (_ | fault) | value⟩ <;> rfl

theorem apart : Follows front id first.apart second.apart := by
  intro workspace
  have inner : second { workspace.renamed front with sink := .fresh } = _ :=
    follows { workspace with sink := .fresh }
  rw [Evaluation.apart, Evaluation.apart, inner]
  rcases first { workspace with sink := .fresh } with _ | ⟨reached, exit | value⟩ <;> rfl

theorem text : Follows front id first.text second.text :=
  follows.apart.bind fun _ => .look fun _ => rfl

end Units

end Evaluation.Follows

/-! ### Between pieces of code -/

theorem Repeater.advance_renamed (repeater : Repeater) :
    (repeater.renamed front).advance = repeater.advance.map id (Repeater.renamed front) := by
  have finished : (repeater.renamed front).isFinished = repeater.isFinished := rfl
  have next : (repeater.renamed front).nextIndex = repeater.nextIndex := rfl
  have count : (repeater.renamed front).count = repeater.count := rfl
  simp only [advance, finished, next, count]
  split
  · rfl
  · split <;> rfl

theorem Repeater.pieces_renamed (repeater : Repeater) (choice : Nat) :
    (repeater.renamed front).pieces choice = (repeater.pieces choice).map (Code.renamed front) := by
  have item? : (repeater.renamed front).item? choice =
      (repeater.item? choice).map (Code.renamed front) := by
    simp only [Repeater.item?, Option.map_map]
    rfl
  have separator? : (if 0 < repeater.index then repeater.separator?.map (Code.renamed front)
      else none) = (if 0 < repeater.index then repeater.separator? else none).map
        (Code.renamed front) := by
    split <;> rfl
  have present (pieces : List (Option Code)) :
      (pieces.map (Option.map (Code.renamed front))).filterMap id =
        (pieces.filterMap id).map (Code.renamed front) := by
    rw [List.filterMap_map, List.map_filterMap]
    rfl
  show List.filterMap id [if 0 < repeater.index then repeater.separator?.map (Code.renamed front)
    else none, repeater.before?.map (Code.renamed front), (repeater.renamed front).item? choice,
    repeater.after?.map (Code.renamed front)] = _
  rw [separator?, item?]
  exact present [_, _, _, _]

theorem Workspace.chooseItem_renamed (workspace : Workspace) (repeater : Repeater) :
    (workspace.renamed front).chooseItem (repeater.renamed front) =
      (workspace.chooseItem repeater).map id (Workspace.renamed front) := by
  have items : (repeater.renamed front).items = repeater.items := rfl
  have isEach : (repeater.renamed front).isEach = repeater.isEach := rfl
  have active? : (workspace.renamed front).synchronizers.active? =
      workspace.synchronizers.active? := rfl
  simp only [chooseItem, items, isEach, active?]
  split
  · rfl
  · split <;> rfl

theorem carries_compile (name source : String) :
    Carries front (Pattern.renamed front) (compile name source)
      (compile (front ++ name) source) := by
  unfold compile Pattern.compile
  cases tokenize source with
  | ok tokens => exact .ok _
  | error problem => exact .error _

namespace Context

variable (context : Context) (workspace : Workspace)

/-- A generated pattern has a name that begins with that of the pattern that generates it. -/
theorem carries_generatedCode (text : String) :
    Carries front (Code.renamed front) (context.generatedCode text)
      ((context.renamed front).generatedCode text) := by
  have compiled := carries_compile front (context.pattern.name ++ "?") text
  rw [← String.append_assoc] at compiled
  exact compiled.map fun _ => rfl

theorem carries_defineGenerated (name : String) (parameters : List SubroutineParameter)
    (text : String) :
    Carries front (Workspace.renamed front)
      (context.defineGenerated workspace name parameters text)
      ((context.renamed front).defineGenerated (workspace.renamed front) name parameters text) := by
  have compiled := carries_compile front (context.pattern.name ++ ":" ++ name) text
  rw [← String.append_assoc, ← String.append_assoc] at compiled
  exact compiled.map fun pattern =>
    workspace.define_renamed front ⟨name, parameters, .whole pattern⟩

theorem carries_settleArithmetic (isStatement : Bool) (position : Position) (text : String) :
    Carries front (Workspace.renamed front)
      (context.settleArithmetic workspace isStatement position text)
      ((context.renamed front).settleArithmetic (workspace.renamed front) isStatement position
        text) := by
  have valuation : (workspace.renamed front).valuation = workspace.valuation := rfl
  simp only [settleArithmetic, valuation]
  split
  · exact .error _
  · next value valuation evaluated =>
      cases isStatement with
      | true => exact .ok { workspace with valuation := valuation }
      | false =>
          have written := Workspace.write_renamed front { workspace with valuation := valuation }
            (workspace.numberFormat.write value)
          exact (congrArg (fun made => Carries front _ _ (.ok made)) written).mpr (.ok _)

end Context

/-! ### Evaluators -/

/-- The evaluator does the same with renamed code. -/
def Evaluator.Respects (evaluate : Evaluator) : Prop :=
  ∀ scope code, (evaluate scope code).Follows front id
    (evaluate (scope.renamed front) (code.renamed front))

namespace Evaluator.Respects

variable {front : String} {evaluate : Evaluator} (respects : evaluate.Respects front)
include respects

theorem argument (scope : Scope) (planned : PlannedArgument) :
    (evaluate.argument scope planned).Follows front (Argument.renamed front)
      (evaluate.argument (scope.renamed front) (planned.renamed front)) := by
  obtain ⟨code, isDeferred⟩ := planned
  cases isDeferred with
  | true => exact .value (Argument.code code)
  | false =>
      refine (respects scope code).text.bind fun text => ?_
      exact .value (Argument.value text)

theorem arguments (scope : Scope) (planned : List PlannedArgument) :
    (evaluate.arguments scope planned).Follows front (List.map (Argument.renamed front))
      (evaluate.arguments (scope.renamed front) (planned.map (PlannedArgument.renamed front))) := by
  induction planned with
  | nil => exact .value []
  | cons first waiting inductionHypothesis =>
      exact (respects.argument scope first).bind fun argument =>
        inductionHypothesis.bind fun arguments => .value (argument :: arguments)

theorem request (scope : Scope) (request : Request) :
    (evaluate.request scope request).Follows front id
      (evaluate.request (scope.renamed front) (request.renamed front)) := by
  cases request with
  | nothing => exact .value ()
  | run body => exact respects scope body
  | attempt trial fallback blankIsEmpty =>
      refine (respects scope trial).apart.bind fun sink => ?_
      refine Evaluation.Follows.bind (.look fun _ => rfl) fun text => ?_
      simp only [id]
      split
      · exact respects scope fallback
      · exact .alter fun _ => rfl
  | compare comparison body => exact respects { scope with comparison? := some comparison } body
  | leaveBlock => exact .stop .leftBlock

theorem pieces (scope : Scope) (pieces : List Code) :
    (evaluate.pieces scope pieces).Follows front id
      (evaluate.pieces (scope.renamed front) (pieces.map (Code.renamed front))) := by
  induction pieces with
  | nil => exact .value ()
  | cons piece others inductionHypothesis =>
      exact (respects scope piece).bind fun _ => inductionHypothesis

theorem turns (scope : Scope) (repeater : Repeater) :
    (evaluate.turns scope repeater).Follows front id
      (evaluate.turns (scope.renamed front) (repeater.renamed front)) := by
  rw [Evaluator.turns, Evaluator.turns]
  split
  · next finished turn =>
      split
      · exact .value ()
      · next advanced' turn' =>
          rw [Repeater.advance_renamed, turn] at turn'
          cases turn'
  · next advanced turn =>
      split
      · next finished' turn' =>
          rw [Repeater.advance_renamed, turn] at turn'
          cases turn'
      · next advanced' turn' =>
          rw [Repeater.advance_renamed, turn] at turn'
          cases turn'
          have chosen : (Evaluator.chooseItem advanced).Follows front id
              (Evaluator.chooseItem (advanced.renamed front)) := by
            intro workspace
            simp only [Evaluator.chooseItem, Workspace.chooseItem_renamed]
            rfl
          refine chosen.bind fun choice => ?_
          rw [id, Repeater.pieces_renamed]
          exact (respects.pieces { scope with repeater? := some advanced } _).bind fun _ =>
            turns scope advanced
termination_by repeater.remaining
decreasing_by exact Repeater.remaining_advance ‹_›

theorem replacements (scope : Scope) (code : Code) (unread : List (String × MatchData)) :
    (evaluate.replacements scope code unread).Follows front id
      (evaluate.replacements (scope.renamed front) (code.renamed front) unread) := by
  induction unread with
  | nil => exact .value ""
  | cons entry unread inductionHypothesis =>
      obtain ⟨before, found⟩ := entry
      exact (respects { scope with found? := some found } code).text.bind fun text =>
        inductionHypothesis.bind fun others => .value (before ++ text ++ others)

theorem construct (context : Context) (construct : Construct) :
    (evaluate.construct context construct).Follows front id
      (evaluate.construct (context.renamed front) (construct.renamed front)) := by
  cases construct with
  | nothing => exact .value context.elseArmed
  | block repeater =>
      exact (respects.turns context.scope repeater).untilLeft.bind fun _ => .value _
  | tag operation position planned =>
      refine (respects.arguments context.scope planned).bind fun arguments => ?_
      have performed : Evaluation.Follows front (Prod.map (Request.renamed front) id)
          (act fun workspace => do
            let outcome ← (Invocation.mk context position arguments).perform workspace operation
            return (outcome.workspace, outcome.request, outcome.elseArmed))
          (act fun workspace => do
            let outcome ← ((Invocation.mk context position arguments).renamed front).perform
              workspace operation
            return (outcome.workspace, outcome.request, outcome.elseArmed)) :=
        .act fun workspace =>
          ((Invocation.mk context position arguments).performs_perform front workspace
            operation).bind fun outcome =>
              .ok (outcome.workspace, outcome.request, outcome.elseArmed)
      refine performed.bind fun asked => ?_
      exact (respects.request context.scope asked.1).bind fun _ => .value asked.2
  | call subroutine position planned =>
      refine (respects.arguments context.scope planned).bind fun arguments => ?_
      rw [Subroutine.bind_renamed]
      exact (respects { context.scope with bindings? := some (subroutine.bind arguments) }
        subroutine.body).bind fun _ => .value context.elseArmed
  | replacer regex input code =>
      refine (respects context.scope input).text.bind fun text => ?_
      refine (respects.replacements context.scope code _).bind fun replaced => ?_
      refine Evaluation.Follows.bind (.alter fun workspace => ?_) fun _ =>
        .value context.elseArmed
      exact Workspace.write_renamed front workspace _
  | generated source =>
      refine (respects context.scope source).text.bind fun text => ?_
      refine Evaluation.Follows.bind (?_ : Evaluation.Follows front (Code.renamed front) _ _)
        fun code => (respects context.scope code).bind fun _ => .value context.elseArmed
      exact .act fun workspace =>
        (context.carries_generatedCode front text).bind fun code => .ok (workspace, code)
  | arithmetic isStatement position source =>
      refine (respects context.scope source).text.bind fun text => ?_
      refine Evaluation.Follows.bind (?_ : Evaluation.Follows front id _ _) fun _ =>
        .value context.elseArmed
      exact .act fun workspace =>
        (context.carries_settleArithmetic front workspace isStatement position text).bind
          fun workspace => .ok (workspace, ())
  | definition name parameters source =>
      refine (respects context.scope source).text.bind fun text => ?_
      refine Evaluation.Follows.bind (?_ : Evaluation.Follows front id _ _) fun _ =>
        .value context.elseArmed
      exact .act fun workspace =>
        (context.carries_defineGenerated front workspace name parameters text).bind
          fun workspace => .ok (workspace, ())

theorem codeFrom (engine : Engine) (scope : Scope) (code : Code) (cursor : Nat)
    (elseArmed : Bool) :
    (evaluate.codeFrom engine scope code cursor elseArmed).Follows front id
      (evaluate.codeFrom engine (scope.renamed front) (code.renamed front) cursor elseArmed) := by
  have same : (code.renamed front).tokenAt? cursor = code.tokenAt? cursor := rfl
  let context : Context := ⟨engine, code.pattern, scope, elseArmed⟩
  cases next : code.tokenAt? cursor with
  | none =>
      rw [codeFrom_of_end next, codeFrom_of_end (same.trans next)]
      exact .value ()
  | some token =>
      have carried := context.carries_constructStop front cursor token
      generalize stopped : context.constructStop cursor token = stop at carried
      generalize stopped' : (context.renamed front).constructStop cursor token = stop' at carried
      cases carried with
      | error fault =>
          rw [codeFrom_of_fault next stopped, codeFrom_of_fault (same.trans next) stopped']
          exact .stop (.failed fault)
      | ok behind =>
          rw [codeFrom_of_token next stopped, codeFrom_of_token (same.trans next) stopped']
          refine Evaluation.Follows.bind
            (?_ : Evaluation.Follows front (Construct.renamed front) _ _)
            fun construct => (respects.construct context construct).bind fun elseArmed =>
              codeFrom engine scope code behind elseArmed
          exact .act fun workspace =>
            context.carries_readConstruct front workspace cursor behind token
termination_by code.span.stop - cursor
decreasing_by
  have inside := Code.lt_stop_of_tokenAt? ‹_›
  have ahead : cursor < behind := Context.lt_of_constructStop ‹_›
  omega

end Evaluator.Respects

/-- At every depth, renamed code is evaluated to the same. -/
theorem Evaluator.respects_nested (engine : Engine) (depth : Nat) :
    (nested engine depth).Respects front := by
  induction depth with
  | zero => exact fun _ _ _ => rfl
  | succ depth inductionHypothesis =>
      exact fun scope code =>
        inductionHypothesis.codeFrom engine scope code code.span.start false

/-- The evaluation of a renamed pattern, if a run starts without subroutines. -/
theorem evaluate_renamed {engine : Engine} (bare : engine.subroutines = .empty) (depth : Nat)
    (pattern : Pattern) (seed : UInt64) :
    evaluate engine depth (pattern.renamed front) seed =
      (evaluate engine depth pattern seed).map
        (Prod.map (Workspace.renamed front) (renamedEnd front id)) := by
  have follows := Evaluator.respects_nested front engine depth .outermost (.whole pattern)
    (.fresh engine seed)
  rw [Workspace.renamed_fresh front bare] at follows
  exact follows

end SeededText.Machine
