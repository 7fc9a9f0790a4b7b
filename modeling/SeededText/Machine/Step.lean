import SeededText.Machine.Task

/-!
Contract: one step of a run.

A run is a stack of activations over a store. A step concerns the activation on top: it goes on with
its first task or, without one, reads its next construct or comes to its end. Code that has to run
before the activation goes on is entered on top of it, as long as the stack stays within the
settings' limit.

Owns: the stack, entering and leaving code, leaving a block, the step.
Does not own: what constructs, tasks and completions do.
-/

namespace SeededText.Machine

open Output Pattern

/-- A run under way. The stack has its top first. -/
structure Configuration where
  store : Store
  stack : List Activation

/-- What is known where an activation runs. -/
def Activation.context (activation : Activation) (engine : Engine) (store : Store) : Context where
  engine := engine
  pattern := activation.pattern
  scope := store.scope
  elseArmed := activation.elseArmed

/-- The store with a sink for code that is entered from code that writes to the given sink, and the
index of that sink. -/
def Store.provide (store : Store) (entry : Entry) (sink : Nat) : Store × Nat :=
  if entry.ownsSink then ({ store with sinks := store.sinks.push .fresh }, store.sinks.size)
  else (store, sink)

namespace Configuration

/-- A run of a pattern before its first step. -/
def start (engine : Engine) (pattern : Pattern) (seed : UInt64) : Configuration :=
  ⟨.fresh engine seed, [.enter (.shared (.whole pattern)) 0]⟩

/-- Puts code on top of the stack, with a sink of its own or with the sink of the activation that
was on top. A stack that is as high as the settings allow refuses it. -/
def enter (engine : Engine) (entry : Entry) (configuration : Configuration) :
    Except Fault Configuration :=
  match configuration with
  | ⟨store, []⟩ => .ok ⟨store, []⟩
  | ⟨store, top :: beneath⟩ =>
      if engine.settings.maxStackDepth ≤ beneath.length + 1 then
        .error ⟨top.pattern.name, top.position, .misused .stackOverflow⟩
      else
        let (store, sink) := store.provide entry top.sink
        .ok ⟨store, .enter entry sink :: top :: beneath⟩

/-- Enters pieces of code one after the other, so that the last is on top. -/
def enterAll (engine : Engine) : List Entry → Configuration → Except Fault Configuration
  | [], configuration => .ok configuration
  | entry :: entries, configuration => do
      enterAll engine entries (← configuration.enter engine entry)

/-- Cuts the stack to a height, and with each activation that is dropped the sink it owns. -/
def unwindTo (height : Nat) (configuration : Configuration) : Configuration :=
  let excess := configuration.stack.length - height
  let owned := (configuration.stack.take excess).countP Activation.ownsSink
  let sinks := configuration.store.sinks
  ⟨{ configuration.store with sinks := sinks.take (sinks.size - owned) },
    configuration.stack.drop excess⟩

/-- Finishes the innermost repeater, and cuts all stacks to where its block was entered. -/
def leaveBlock (configuration : Configuration) : Configuration :=
  match configuration with
  | ⟨store, stack⟩ =>
      match store.repeaters, store.bases with
      | [], _ => ⟨store, stack⟩
      | repeater :: outer, [] => ⟨{ store with repeaters := repeater.finish :: outer }, stack⟩
      | repeater :: outer, base :: _ =>
          unwindTo (base.depth + 1)
            ⟨{ store with repeaters := repeater.finish :: outer }.cutTo base.heights, stack⟩

/-- Nothing comes to the stack. -/
theorem leaveBlock_suffix (configuration : Configuration) :
    configuration.leaveBlock.stack <:+ configuration.stack := by
  unfold leaveBlock
  dsimp only
  split
  · exact List.suffix_refl _
  · exact List.suffix_refl _
  · exact List.drop_suffix _ _

/-- Changes the stack. -/
def shift (engine : Engine) (configuration : Configuration) : Move → Except Fault Configuration
  | .enter entries => configuration.enterAll engine entries
  | .leaveBlock => .ok configuration.leaveBlock

/-- Changes the stack as the activation on top asks for. -/
def settle (engine : Engine) (top : Activation) (beneath : List Activation) (progress : Progress) :
    Except Fault Configuration :=
  shift engine ⟨progress.store, { top with elseArmed := progress.elseArmed } :: beneath⟩
    progress.move

/-- The store when an activation is at its end: a sink of its own becomes a result. -/
def release (store : Store) (top : Activation) : Store :=
  if top.ownsSink then
    { store with
      sinks := store.sinks.pop
      results := store.sinkAt (store.sinks.size - 1) :: store.results }
  else store

/-- Leaves the activation on top, which is at its end. -/
def leave (engine : Engine) (store : Store) (top : Activation) (beneath : List Activation) :
    Except Fault Configuration :=
  let store := release store top
  match top.completion?, beneath with
  | some completion, below :: others =>
      settle engine below others
        ((below.context engine store).complete store below.sink completion)
  | _, _ => .ok ⟨store, beneath⟩

/-- One step with the given activation on top. A task that goes on stays in front of the others; one
that a construct leaves comes behind them. -/
def step (engine : Engine) (store : Store) (top : Activation) (beneath : List Activation) :
    Except Fault Configuration := do
  let context := top.context engine store
  match top.tasks with
  | task :: tasks =>
      let progress ← context.resume store top.sink task
      settle engine { top with tasks := progress.task?.toList ++ tasks } beneath progress
  | [] =>
      match top.nextToken? with
      | none => leave engine store top beneath
      | some token =>
          let stop ← context.constructStop top.cursor token
          let (workspace, construct) ←
            context.readConstruct (store.workspace top.sink) top.cursor stop token
          let progress := context.begin (store.absorb top.sink workspace) beneath.length construct
          settle engine { top with cursor := stop, tasks := top.tasks ++ progress.task?.toList }
            beneath progress

section Stepping

variable {engine : Engine} {store : Store} {top : Activation} {beneath : List Activation}

theorem step_of_task {task : Task} (tasks : top.tasks = [task]) :
    step engine store top beneath = (do
      let progress ← (top.context engine store).resume store top.sink task
      settle engine { top with tasks := progress.task?.toList } beneath progress) := by
  simp only [step, tasks, List.append_nil]

theorem step_of_end (idle : top.tasks = []) (ended : top.nextToken? = none) :
    step engine store top beneath = leave engine store top beneath := by
  simp only [step, idle, ended]

theorem step_of_token {token : Token} (idle : top.tasks = []) (next : top.nextToken? = some token) :
    step engine store top beneath = (do
      let stop ← (top.context engine store).constructStop top.cursor token
      let (workspace, construct) ←
        (top.context engine store).readConstruct (store.workspace top.sink) top.cursor stop token
      let progress := (top.context engine store).begin (store.absorb top.sink workspace)
        beneath.length construct
      settle engine { top with cursor := stop, tasks := progress.task?.toList } beneath
        progress) := by
  simp only [step, idle, next, List.nil_append]

section Reading

variable {token : Token} {stop : Nat} {workspace : Workspace} {construct : Construct}
  {fault : Fault}

theorem step_of_unstopped (idle : top.tasks = []) (next : top.nextToken? = some token)
    (unstopped : (top.context engine store).constructStop top.cursor token = .error fault) :
    step engine store top beneath = .error fault := by
  rw [step_of_token idle next, unstopped]
  rfl

theorem step_of_unread (idle : top.tasks = []) (next : top.nextToken? = some token)
    (stopped : (top.context engine store).constructStop top.cursor token = .ok stop)
    (unread : (top.context engine store).readConstruct (store.workspace top.sink) top.cursor stop
      token = .error fault) :
    step engine store top beneath = .error fault := by
  rw [step_of_token idle next, stopped]
  show (Context.readConstruct _ _ _ _ _ >>= _) = _
  rw [unread]
  rfl

theorem step_of_read (idle : top.tasks = []) (next : top.nextToken? = some token)
    (stopped : (top.context engine store).constructStop top.cursor token = .ok stop)
    (reading : (top.context engine store).readConstruct (store.workspace top.sink) top.cursor stop
      token = .ok (workspace, construct)) :
    let progress := (top.context engine store).begin (store.absorb top.sink workspace)
      beneath.length construct
    step engine store top beneath =
      settle engine { top with cursor := stop, tasks := progress.task?.toList } beneath
        progress := by
  intro progress
  rw [step_of_token idle next, stopped]
  show (Context.readConstruct _ _ _ _ _ >>= _) = _
  rw [reading]
  rfl

end Reading

end Stepping

/-- The ways in which a step is taken by an activation with at most one task. -/
inductive Stepped (engine : Engine) (store : Store) (top : Activation)
    (beneath : List Activation) (reached : Configuration) : Prop where
  | resume (task : Task) (progress : Progress) (tasks : top.tasks = [task])
      (resumed : (top.context engine store).resume store top.sink task = .ok progress)
      (settled : settle engine { top with tasks := progress.task?.toList } beneath progress =
        .ok reached)
  | leave (idle : top.tasks = []) (ended : top.nextToken? = none)
      (left : leave engine store top beneath = .ok reached)
  | read (token : Token) (stop : Nat) (workspace : Workspace) (construct : Construct)
      (idle : top.tasks = []) (next : top.nextToken? = some token)
      (stopped : (top.context engine store).constructStop top.cursor token = .ok stop)
      (reading : (top.context engine store).readConstruct (store.workspace top.sink) top.cursor stop
        token = .ok (workspace, construct))
      (settled :
        let progress := (top.context engine store).begin (store.absorb top.sink workspace)
          beneath.length construct
        settle engine { top with cursor := stop, tasks := progress.task?.toList } beneath progress =
          .ok reached)

theorem stepped_of_step {engine : Engine} {store : Store} {top : Activation}
    {beneath : List Activation} {reached : Configuration} (short : top.tasks.length ≤ 1)
    (stepped : step engine store top beneath = .ok reached) :
    Stepped engine store top beneath reached := by
  cases tasks : top.tasks with
  | cons task others =>
      obtain rfl : others = [] := by
        rw [tasks, List.length_cons] at short
        exact List.eq_nil_of_length_eq_zero (by omega)
      rw [step_of_task tasks, bind_eq_ok] at stepped
      obtain ⟨progress, resumed, settled⟩ := stepped
      exact .resume task progress tasks resumed settled
  | nil =>
      cases next : top.nextToken? with
      | none =>
          rw [step_of_end tasks next] at stepped
          exact .leave tasks next stepped
      | some token =>
          rw [step_of_token tasks next, bind_eq_ok] at stepped
          obtain ⟨stop, stopped, stepped⟩ := stepped
          rw [bind_eq_ok] at stepped
          obtain ⟨⟨workspace, construct⟩, reading, settled⟩ := stepped
          exact .read token stop workspace construct tasks next stopped reading settled

end Configuration

end SeededText.Machine
