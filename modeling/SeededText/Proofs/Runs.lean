import Mathlib.Logic.Relation
import SeededText.Engine.Build

/-!
Contract: the configurations that a run passes through.

Owns: steps as a relation, reaching, the ends of runs, that a run reaches its end, that subroutines
of a prelude are those of its runs.
Does not own: what holds of the configurations that are reached.
-/

namespace SeededText.Machine

open Pattern

namespace Configuration

/-- One step leads from one configuration to the other. -/
inductive Steps (engine : Engine) : Configuration → Configuration → Prop where
  | intro {store : Store} {top : Activation} {beneath : List Activation} {reached : Configuration}
      (stepped : step engine store top beneath = .ok reached) :
      Steps engine ⟨store, top :: beneath⟩ reached

/-- There is no step from here: the stack is empty, or the next step fails. -/
inductive Ends (engine : Engine) : Configuration → Option Fault → Prop where
  | finished {store : Store} : Ends engine ⟨store, []⟩ none
  | failed {store : Store} {top : Activation} {beneath : List Activation} {fault : Fault}
      (failed : step engine store top beneath = .error fault) :
      Ends engine ⟨store, top :: beneath⟩ (some fault)

/-- Finitely many steps lead from one configuration to the other. -/
abbrev Reaches (engine : Engine) : Configuration → Configuration → Prop :=
  Relation.ReflTransGen (Steps engine)

/-- The configurations of the run of a pattern with a seed. -/
abbrev Reachable (engine : Engine) (pattern : Pattern) (seed : UInt64) : Configuration → Prop :=
  Reaches engine (start engine pattern seed)

/-- The pattern has an activation. -/
def IsRunning (configuration : Configuration) (pattern : Pattern) : Prop :=
  ∃ activation ∈ configuration.stack, activation.pattern = pattern

variable {engine : Engine} {pattern : Pattern} {seed : UInt64}
  {configuration reached last : Configuration}

theorem Steps.of_resume {store : Store} {top : Activation} {beneath : List Activation}
    {task : Task} {progress : Progress} (tasks : top.tasks = [task])
    (resumed : (top.context engine store).resume store top.sink task = .ok progress)
    (settled : settle engine { top with tasks := progress.task?.toList } beneath progress =
      .ok reached) :
    Steps engine ⟨store, top :: beneath⟩ reached := by
  constructor
  rw [step_of_task tasks, resumed]
  exact settled

theorem Steps.of_read {store : Store} {top : Activation} {beneath : List Activation}
    {token : Token} {stop : Nat} {workspace : Workspace} {construct : Construct}
    (idle : top.tasks = []) (next : top.nextToken? = some token)
    (stopped : (top.context engine store).constructStop top.cursor token = .ok stop)
    (reading : (top.context engine store).readConstruct (store.workspace top.sink) top.cursor stop
      token = .ok (workspace, construct))
    (settled :
      let progress := (top.context engine store).begin (store.absorb top.sink workspace)
        beneath.length construct
      settle engine { top with cursor := stop, tasks := progress.task?.toList } beneath progress =
        .ok reached) :
    Steps engine ⟨store, top :: beneath⟩ reached :=
  ⟨(step_of_read idle next stopped reading).trans settled⟩

theorem Steps.wellStacked (steps : Steps engine configuration reached)
    (wellStacked : WellStacked engine configuration) : WellStacked engine reached := by
  obtain ⟨stepped⟩ := steps
  exact wellStacked.step stepped

theorem Reaches.wellStacked (reaches : Reaches engine configuration reached)
    (wellStacked : WellStacked engine configuration) : WellStacked engine reached := by
  induction reaches with
  | refl => exact wellStacked
  | tail _ steps inductionHypothesis => exact steps.wellStacked inductionHypothesis

theorem Reachable.wellStacked (reachable : Reachable engine pattern seed configuration) :
    WellStacked engine configuration :=
  Reaches.wellStacked reachable (.start engine pattern seed)

end Configuration

/-- The pattern has an activation at some moment of the run. -/
def HasRun (engine : Engine) (pattern : Pattern) (seed : UInt64) (running : Pattern) : Prop :=
  ∃ configuration, Configuration.Reachable engine pattern seed configuration ∧
    configuration.IsRunning running

open SeededText.Machine.Configuration

variable {engine : Engine} {store : Store} {top : Activation} {stack beneath : List Activation}
  {reached last : Configuration} {fault : Fault} {fault? : Option Fault}

theorem runStack_of_error (wellStacked : WellStacked engine ⟨store, top :: beneath⟩)
    (failed : step engine store top beneath = .error fault) :
    runStack engine store (top :: beneath) wellStacked = (store, some fault) := by
  rw [runStack]
  split
  · next other failed' =>
      rw [failed] at failed'
      cases failed'
      rfl
  · next stepped =>
      rw [failed] at stepped
      cases stepped

theorem runStack_of_ok (wellStacked : WellStacked engine ⟨store, top :: beneath⟩)
    (stepped : step engine store top beneath = .ok reached) :
    runStack engine store (top :: beneath) wellStacked =
      runStack engine reached.store reached.stack (wellStacked.step stepped) := by
  rw [runStack]
  split
  · next failed =>
      rw [stepped] at failed
      cases failed
  · next other stepped' =>
      rw [stepped] at stepped'
      cases stepped'
      rfl

/-- The outcome of taking steps is that of a configuration that is reached and has no next step. -/
theorem runStack_reaches (wellStacked : WellStacked engine ⟨store, stack⟩) :
    ∃ last, Reaches engine ⟨store, stack⟩ last ∧
      last.Ends engine (runStack engine store stack wellStacked).2 ∧
      last.store = (runStack engine store stack wellStacked).1 := by
  induction store, stack, wellStacked using runStack.induct engine with
  | case1 store wellStacked =>
      rw [runStack]
      exact ⟨_, .refl, .finished, rfl⟩
  | case2 store top beneath wellStacked fault failed =>
      rw [runStack_of_error wellStacked failed]
      exact ⟨_, .refl, .failed failed, rfl⟩
  | case3 store top beneath wellStacked reached stepped _ inductionHypothesis =>
      rw [runStack_of_ok wellStacked stepped]
      obtain ⟨last, reaches, ends, same⟩ := inductionHypothesis
      exact ⟨last, .head ⟨stepped⟩ reaches, ends, same⟩

/-- A configuration that is reached and has no next step gives the outcome. -/
theorem runStack_of_reaches (wellStacked : WellStacked engine ⟨store, stack⟩)
    (reaches : Reaches engine ⟨store, stack⟩ last) (ends : last.Ends engine fault?) :
    runStack engine store stack wellStacked = (last.store, fault?) := by
  generalize start : (⟨store, stack⟩ : Configuration) = configuration at reaches
  induction reaches using Relation.ReflTransGen.head_induction_on generalizing store stack with
  | refl =>
      subst start
      cases ends with
      | finished => rw [runStack]
      | failed failed => exact runStack_of_error wellStacked failed
  | head steps _ inductionHypothesis =>
      obtain ⟨stepped⟩ := steps
      cases start
      rw [runStack_of_ok wellStacked stepped]
      exact inductionHypothesis (wellStacked.step stepped) rfl

/-- The configuration after a number of steps, if there are so many. -/
def Configuration.after (engine : Engine) : Nat → Configuration → Option Configuration
  | 0, configuration => some configuration
  | _ + 1, ⟨_, []⟩ => none
  | count + 1, ⟨store, top :: beneath⟩ =>
      match step engine store top beneath with
      | .ok reached => after engine count reached
      | .error _ => none

theorem Configuration.reaches_of_after {count : Nat} {configuration : Configuration}
    (found : after engine count configuration = some reached) :
    Reaches engine configuration reached := by
  induction count generalizing configuration with
  | zero =>
      cases found
      exact .refl
  | succ count inductionHypothesis =>
      obtain ⟨store, _ | ⟨top, beneath⟩⟩ := configuration
      · cases found
      · rw [after] at found
        split at found
        · next next stepped => exact .head ⟨stepped⟩ (inductionHypothesis found)
        · cases found

/-- How the run ends here, if there is no next step. -/
def Configuration.ending? (engine : Engine) : Configuration → Option (Option Fault)
  | ⟨_, []⟩ => some none
  | ⟨store, top :: beneath⟩ =>
      match step engine store top beneath with
      | .ok _ => none
      | .error fault => some (some fault)

theorem Configuration.ends_of_ending? {configuration : Configuration}
    (found : configuration.ending? engine = some fault?) : configuration.Ends engine fault? := by
  obtain ⟨store, _ | ⟨top, beneath⟩⟩ := configuration
  · cases found
    exact .finished
  · rw [ending?] at found
    split at found
    · cases found
    · next fault failed =>
        cases found
        exact .failed failed

theorem Configuration.Steps.deterministic {configuration first second : Configuration}
    (toFirst : Steps engine configuration first) (toSecond : Steps engine configuration second) :
    first = second := by
  obtain ⟨stepped⟩ := toFirst
  cases toSecond with
  | intro stepped' =>
      rw [stepped] at stepped'
      exact Except.ok.inj stepped'

/-- Steps that lead to an end cannot be taken forever. -/
theorem Configuration.Reaches.exists_not_steps (reaches : Reaches engine reached last)
    (ends : last.Ends engine fault?) (sequence : Nat → Configuration)
    (start : sequence 0 = reached) :
    ∃ index, ¬ Steps engine (sequence index) (sequence (index + 1)) := by
  induction reaches using Relation.ReflTransGen.head_induction_on generalizing sequence with
  | refl =>
      refine ⟨0, fun steps => ?_⟩
      rw [start] at steps
      obtain ⟨stepped⟩ := steps
      cases ends with
      | failed failed =>
          rw [failed] at stepped
          cases stepped
  | head steps _ inductionHypothesis =>
      by_cases first : Steps engine (sequence 0) (sequence 1)
      · have same := (start ▸ first).deterministic steps
        obtain ⟨index, last⟩ := inductionHypothesis (fun index => sequence (index + 1)) same
        exact ⟨index + 1, last⟩
      · exact ⟨0, first⟩

/-- The outcome of a run is that of the configuration where it ends. -/
theorem exists_run_eq (engine : Engine) (pattern : Pattern) (seed : UInt64) :
    ∃ last fault?, Reachable engine pattern seed last ∧ last.Ends engine fault? ∧
      run engine pattern seed = (last.store, fault?) := by
  obtain ⟨last, reaches, ends, same⟩ := runStack_reaches (.start engine pattern seed)
  exact ⟨last, _, reaches, ends, Prod.ext same.symm rfl⟩

/-- What comes of a run that ends here. -/
def Configuration.outcome? (engine : Engine) (configuration : Configuration) :
    Option (Except Failure (List Output.ChannelOutput)) :=
  (configuration.ending? engine).map fun
    | none => .ok configuration.store.output
    | some fault => .error ⟨fault, configuration.store.output⟩

/-- What comes of a source can be read off where its run ends. -/
theorem runSource_of_after {name source : String} {pattern : Pattern} {seed : UInt64} {count : Nat}
    {outcome : Except Failure (List Output.ChannelOutput)}
    (compiled : (compile name source).toOption = some pattern)
    (observed : (after engine count (start engine pattern seed)).bind (outcome? engine) =
      some outcome) : engine.runSource name source seed = outcome := by
  obtain ⟨last, found, observed⟩ := Option.bind_eq_some_iff.mp observed
  obtain ⟨fault?, ending, rfl⟩ := Option.map_eq_some_iff.mp observed
  have ran : run engine pattern seed = (last.store, fault?) :=
    runStack_of_reaches (.start engine pattern seed) (reaches_of_after found)
      (ends_of_ending? ending)
  unfold Engine.runSource
  cases made : compile name source with
  | error fault =>
      rw [made] at compiled
      cases compiled
  | ok first =>
      rw [made] at compiled
      cases compiled
      show engine.run pattern seed = _
      unfold Engine.run
      rw [ran]
      cases fault? <;> rfl

/-- Every run ends: after finitely many steps the stack is empty or the next step fails, and that
gives the outcome of the run. No sequence of steps goes on forever. -/
theorem run_ends (engine : Engine) (pattern : Pattern) (seed : UInt64) :
    (∃ last fault?, Reachable engine pattern seed last ∧ last.Ends engine fault? ∧
      run engine pattern seed = (last.store, fault?)) ∧
    ∀ sequence : Nat → Configuration, sequence 0 = .start engine pattern seed →
      ∃ index, ¬ Steps engine (sequence index) (sequence (index + 1)) := by
  obtain ⟨last, fault?, reaches, ends, same⟩ := exists_run_eq engine pattern seed
  refine ⟨⟨last, fault?, reaches, ends, same⟩, ?_⟩
  exact fun sequence start => reaches.exists_not_steps ends sequence start

/-! ### Preludes -/

/-- What holds of the subroutines of an engine, and is kept by every run of a compiled pattern on an
engine with it, holds of the subroutines that a prelude leaves behind. -/
theorem subroutines_of_withPrelude {engine next : Engine} {prelude : List PreludePattern}
    (usable : Subroutines → Prop)
    (kept : ∀ (engine : Engine) (entry : PreludePattern) (pattern : Pattern)
      (configuration : Configuration), compile entry.name entry.source = .ok pattern →
      usable engine.subroutines → Reachable engine pattern 0 configuration →
        usable configuration.store.subroutines)
    (held : usable engine.subroutines) (made : engine.withPrelude prelude = .ok next) :
    usable next.subroutines := by
  induction prelude generalizing engine with
  | nil =>
      cases made
      exact held
  | cons entry entries inductionHypothesis =>
      obtain ⟨pattern, compiled, made⟩ := bind_eq_ok.mp made
      obtain ⟨learning, learned, made⟩ := bind_eq_ok.mp made
      refine inductionHypothesis ?_ made
      obtain ⟨last, fault?, reachable, -, same⟩ := exists_run_eq engine pattern 0
      unfold Engine.learn at learned
      rw [same] at learned
      cases fault? with
      | some fault => cases learned
      | none =>
          cases learned
          exact kept engine entry pattern last compiled held reachable

end SeededText.Machine
