import SeededText.Proofs.Containment
import SeededText.Proofs.TagFaults

/-!
Contract: how a step fails.

Reading may fail, and so may going on with a task: a tag may be used wrongly, text that code has
made may be no code, or no arithmetic. Whatever code is to be entered after that, the stack may be
too high for it; then the activation that is on top at that moment is blamed, which may be one that
has just been entered.

Owns: all ways in which a step fails.
Does not own: where the faults are placed (`SeededText.Proofs.FaultPlaces`).
-/

namespace SeededText.Machine

open Pattern

/-! ### Tasks -/

/-- A source that does not compile is at fault where it does not lex. -/
theorem exists_of_compile {name source : String} {fault : Fault}
    (broken : compile name source = .error fault) :
    ∃ located, Pattern.compile name source = .error located ∧
      fault = ⟨name, located.position, .malformed (.lexeme located.problem)⟩ := by
  unfold compile at broken
  cases compiled : Pattern.compile name source with
  | ok pattern =>
      rw [compiled] at broken
      cases broken
  | error located =>
      rw [compiled] at broken
      cases broken
      exact ⟨located, rfl, rfl⟩

/-- How going on with a task fails. -/
inductive Task.FailsWith (context : Context) (store : Store) (sink : Nat) : Task → Fault → Prop
  | callTag {call : TagCall} {settled : Store} {arguments : List Argument} {fault : Fault}
      (passed : store.settlePlan call.plan = (settled, arguments, none))
      (failed : (Invocation.mk context call.position arguments).perform (settled.workspace sink)
        call.operation = .error fault) :
      FailsWith context store sink (.callTag call) fault
  | runGenerated {fault : Fault}
      (broken : compile (context.pattern.name ++ "?") store.resultText = .error fault) :
      FailsWith context store sink .runGenerated fault
  | defineGenerated {name : String} {parameters : List SubroutineParameter} {fault : Fault}
      (broken : compile (context.pattern.name ++ ":" ++ name) store.resultText = .error fault) :
      FailsWith context store sink (.defineGenerated name parameters) fault
  | settleArithmetic {isStatement : Bool} {position : Position} (text : String)
      (problem : Arithmetic.Fault) :
      FailsWith context store sink (.settleArithmetic isStatement position)
        (context.fault position (.failed (.arithmetic text problem)))

theorem Context.failsWith_of_resume {context : Context} {store : Store} {sink : Nat} {task : Task}
    {fault : Fault} (failed : context.resume store sink task = .error fault) :
    task.FailsWith context store sink fault := by
  cases task with
  | callTag call =>
      unfold resume resumeTag at failed
      dsimp only at failed
      split at failed
      · cases failed
      · next passed => exact .callTag passed (map_eq_error.mp failed)
  | runGenerated =>
      exact .runGenerated (map_eq_error.mp (map_eq_error.mp failed))
  | defineGenerated name parameters =>
      exact .defineGenerated (map_eq_error.mp (map_eq_error.mp failed))
  | settleArithmetic isStatement position =>
      have failed := map_eq_error.mp failed
      unfold settleArithmetic at failed
      split at failed
      · cases failed
        exact .settleArithmetic _ _
      · cases failed
  | takeTurn | callSubroutine call | findMatches regex code | replaceMatches replacement =>
      cases failed

/-! ### The stack -/

section Stack

variable {engine : Engine} {store : Store} {top : Activation} {beneath : List Activation}
  {entries : List Entry} {progress : Progress} {fault : Fault}

/-- The fault of a stack that is too high. -/
def Activation.overflow (activation : Activation) : Fault :=
  ⟨activation.pattern.name, activation.position, .misused .stackOverflow⟩

namespace Configuration

/-- A stack that is too high is noticed by the activation that code was to be entered from: the one
that was on top, or one of those that have been entered, which the last piece of code never is. -/
theorem overflow_of_enterAll
    (failed : enterAll engine entries ⟨store, top :: beneath⟩ = .error fault) :
    ∃ activation, (activation = top ∨ activation.IsEntered entries.dropLast) ∧
      fault = activation.overflow := by
  induction entries generalizing store top beneath with
  | nil => cases failed
  | cons entry entries inductionHypothesis =>
      cases first : enter engine entry ⟨store, top :: beneath⟩ with
      | error problem =>
          rw [enterAll, first] at failed
          cases failed
          unfold enter at first
          dsimp only at first
          split at first
          · cases first
            exact ⟨top, .inl rfl, rfl⟩
          · cases first
      | ok higher =>
          rw [enterAll, first] at failed
          obtain ⟨-, rfl⟩ := enter_ok first
          obtain ⟨activation, which, same⟩ := inductionHypothesis failed
          refine ⟨activation, .inr ?_, same⟩
          cases entries with
          | nil => cases failed
          | cons next others =>
              rw [List.dropLast_cons_cons]
              rcases which with rfl | ⟨later, member, sink, rfl⟩
              · exact ⟨entry, List.mem_cons_self, _, rfl⟩
              · exact ⟨later, List.mem_cons_of_mem _ member, sink, rfl⟩

theorem overflow_of_settle (failed : settle engine top beneath progress = .error fault) :
    ∃ activation, (activation = { top with elseArmed := progress.elseArmed } ∨
      activation.IsEntered progress.move.entries.dropLast) ∧ fault = activation.overflow := by
  unfold settle shift at failed
  split at failed
  · next entries move =>
      rw [move]
      exact overflow_of_enterAll failed
  · cases failed

/-- All ways in which a step fails. -/
inductive FailsWith (engine : Engine) (store : Store) (top : Activation)
    (beneath : List Activation) (fault : Fault) : Prop where
  | resume (task : Task) (tasks : List Task) (first : top.tasks = task :: tasks)
      (failed : task.FailsWith (top.context engine store) store top.sink fault)
  | stop (token : Token) (next : top.nextToken? = some token)
      (failed : (top.context engine store).constructStop top.cursor token = .error fault)
  | read (token : Token) (stop : Nat) (next : top.nextToken? = some token)
      (failed : (top.context engine store).readConstruct (store.workspace top.sink) top.cursor stop
        token = .error fault)
  | overflow (progress : Progress) (activation : Activation)
      (makes : Makes engine ⟨store, top :: beneath⟩ progress)
      (blamed : IsRunning ⟨store, top :: beneath⟩ activation.pattern ∨
        activation.IsEntered progress.move.entries.dropLast) (same : fault = activation.overflow)

theorem failsWith_of_settle {renewed : Activation} {others : List Activation}
    (failed : settle engine renewed others progress = .error fault)
    (makes : Makes engine ⟨store, top :: beneath⟩ progress)
    (running : IsRunning ⟨store, top :: beneath⟩ renewed.pattern) :
    FailsWith engine store top beneath fault := by
  obtain ⟨activation, which, same⟩ := overflow_of_settle failed
  refine .overflow progress activation makes ?_ same
  rcases which with rfl | entered
  · exact .inl running
  · exact .inr entered

theorem failsWith_of_step (failed : step engine store top beneath = .error fault) :
    FailsWith engine store top beneath fault := by
  unfold step at failed
  dsimp only at failed
  split at failed
  · next task tasks first =>
      rcases bind_eq_error.mp failed with failed | ⟨progress, resumed, failed⟩
      · exact .resume task tasks first (Context.failsWith_of_resume failed)
      · exact failsWith_of_settle failed (.resumed first resumed) ⟨top, List.mem_cons_self, rfl⟩
  · next idle =>
      split at failed
      · next ended =>
          unfold leave at failed
          dsimp only at failed
          split at failed
          · next completion below others completes =>
              exact failsWith_of_settle failed (.completed idle ended completes)
                ⟨below, List.mem_cons_of_mem _ List.mem_cons_self, rfl⟩
          · cases failed
      · next token next =>
          rcases bind_eq_error.mp failed with failed | ⟨stop, stopped, failed⟩
          · exact .stop token next failed
          · rcases bind_eq_error.mp failed with failed | ⟨⟨workspace, construct⟩, reading, failed⟩
            · exact .read token stop next failed
            · exact failsWith_of_settle failed (.read idle next stopped reading)
                ⟨top, List.mem_cons_self, rfl⟩

end Configuration

end Stack

end SeededText.Machine
