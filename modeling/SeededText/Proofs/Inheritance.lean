import SeededText.Proofs.Choices
import SeededText.Proofs.CodeRanges

/-!
Contract: what tasks and the memory hand on throughout a run.

A construct leaves at most one task, and going on with a task leaves at most one. So what holds of
every task that a construct leaves, and of every task that one with the property leaves, holds of
all tasks of a run. In the same way a run only adds definitions to the subroutines of its engine,
and the attributes of the next block get their code from the arguments of tags.

Owns: which tasks are left by constructs and by tasks, what becomes of subroutines and attributes,
what defining subroutines makes of a run and of a prelude.
Does not own: the properties themselves.
-/

namespace SeededText.Machine

open Pattern

/-! ### Tasks -/

/-- The task that a construct leaves. -/
def Construct.task? : Construct → Option Task
  | .nothing => none
  | .block _ => some .takeTurn
  | .tag operation position planned => some (.callTag ⟨operation, position, .start planned⟩)
  | .call subroutine position planned =>
      some (.callSubroutine ⟨subroutine, position, .start planned⟩)
  | .replacer regex _ replacement => some (.findMatches regex replacement)
  | .generated _ => some .runGenerated
  | .arithmetic isStatement position _ => some (.settleArithmetic isStatement position)
  | .definition name parameters _ => some (.defineGenerated name parameters)

theorem Context.task_begin (context : Context) (store : Store) (depth : Nat)
    (construct : Construct) : (context.begin store depth construct).task? = construct.task? := by
  cases construct <;> rfl

/-- A task that leaves another one when it is taken up. -/
inductive Task.Leaves (store : Store) : Task → Task → Prop
  | takeTurn : Leaves store .takeTurn .takeTurn
  | callTag {call : TagCall} {settled : Store} {done : List Argument} {code : Code}
      {waiting : List PlannedArgument}
      (next : store.settlePlan call.plan = (settled, done, some (code, waiting))) :
      Leaves store (.callTag call) (.callTag { call with plan := ⟨waiting, done, true⟩ })
  | callSubroutine {call : SubroutineCall} {settled : Store} {done : List Argument} {code : Code}
      {waiting : List PlannedArgument}
      (next : store.settlePlan call.plan = (settled, done, some (code, waiting))) :
      Leaves store (.callSubroutine call)
        (.callSubroutine { call with plan := ⟨waiting, done, true⟩ })
  | replacer (task : Task) (replacement : Replacement) :
      Leaves store task (.replaceMatches replacement)

section Leaving

variable {context : Context} {store : Store} {sink : Nat} {progress : Progress} {left : Task}

namespace Context

theorem leaves_resumeTag {call : TagCall}
    (resumed : context.resumeTag store sink call = .ok progress)
    (leaves : progress.task? = some left) : (Task.callTag call).Leaves store left := by
  unfold resumeTag at resumed
  split at resumed
  · next next =>
      cases resumed
      cases leaves
      exact .callTag next
  · obtain ⟨outcome, -, rfl⟩ := map_eq_ok.mp resumed
    cases leaves

theorem leaves_resumeSubroutine {call : SubroutineCall}
    (leaves : (context.resumeSubroutine store call).task? = some left) :
    (Task.callSubroutine call).Leaves store left := by
  unfold resumeSubroutine at leaves
  split at leaves
  · next next =>
      cases leaves
      exact .callSubroutine next
  · cases leaves

theorem leaves_replaceNext {before : Store} {replacement : Replacement} (task : Task)
    (leaves : (context.replaceNext before sink replacement).task? = some left) :
    task.Leaves store left := by
  unfold replaceNext at leaves
  split at leaves
  · cases leaves
  · cases leaves
    exact .replacer task _

/-- These are all the tasks that tasks leave. -/
theorem leaves_resume {task : Task} (resumed : context.resume store sink task = .ok progress)
    (leaves : progress.task? = some left) : task.Leaves store left := by
  cases task with
  | takeTurn =>
      cases resumed
      unfold takeTurn at leaves
      split at leaves
      · cases leaves
      · split at leaves
        · cases leaves
          exact .takeTurn
        · cases leaves
  | callTag call => exact leaves_resumeTag resumed leaves
  | callSubroutine call =>
      cases resumed
      exact leaves_resumeSubroutine leaves
  | findMatches regex code | replaceMatches replacement =>
      cases resumed
      exact leaves_replaceNext _ leaves
  | runGenerated =>
      obtain ⟨code, -, rfl⟩ := map_eq_ok.mp resumed
      cases leaves
  | settleArithmetic isStatement position =>
      obtain ⟨workspace, -, rfl⟩ := map_eq_ok.mp resumed
      cases leaves
  | defineGenerated name parameters =>
      obtain ⟨workspace, -, rfl⟩ := map_eq_ok.mp resumed
      cases leaves

end Context

end Leaving

/-! ### Memory -/

/-- The subroutines are the same, or one has been defined. -/
inductive Subroutines.Extends (before : Subroutines) : Subroutines → Prop
  | same : Extends before before
  | define (subroutine : Subroutine) : Extends before (before.define subroutine)

theorem Subroutines.Extends.of_eq {before after : Subroutines} (same : after = before) :
    before.Extends after :=
  same ▸ .same

/-- What is handed on in a memory: the subroutines with at most one more, and in the attributes of
the next block code that was there before or that is given. -/
structure Memory.HandsOn (given : List Code) (before after : Memory) : Prop where
  subroutines : before.subroutines.Extends after.subroutines
  attributes : after.attributes.codes ⊆ before.attributes.codes ++ given

theorem Memory.HandsOn.of_eq {given : List Code} {before after : Memory}
    (subroutines : after.subroutines = before.subroutines)
    (attributes : after.attributes = before.attributes) : before.HandsOn given after :=
  ⟨.of_eq subroutines, attributes ▸ List.subset_append_left _ _⟩

section Defining

variable (invocation : Invocation) (workspace : Workspace)

@[simp] theorem Workspace.subroutines_write (text : String) :
    (workspace.write text).subroutines = workspace.subroutines := by
  unfold write
  split <;> rfl

@[simp] theorem Workspace.attributes_write (text : String) :
    (workspace.write text).attributes = workspace.attributes := by
  unfold write
  split <;> rfl

theorem Workspace.handsOn_write {given : List Code} {before : Memory} {changed : Workspace}
    (text : String) (subroutines : changed.subroutines = before.subroutines)
    (attributes : changed.attributes = before.attributes) :
    before.HandsOn given (changed.write text).toMemory :=
  .of_eq ((changed.subroutines_write text).trans subroutines)
    ((changed.attributes_write text).trans attributes)

/-- Tags define no subroutines, and set for the next block only code that they are given. -/
theorem Invocation.handsOn_perform (operation : TagOperation) :
    Yields (fun outcome => workspace.toMemory.HandsOn (invocation.arguments.flatMap Argument.codes)
        outcome.workspace.toMemory)
      (invocation.perform workspace operation) := by
  cases operation with
  | setSeparator | setBefore | setAfter =>
      refine yields_bind_of (invocation.yields_code 0) fun body given => ?_
      refine (yields_ok _).mpr ⟨.same, fun code member => ?_⟩
      simp only [stay, ask, BlockAttributes.codes, Option.toList_some, List.mem_append,
        List.mem_singleton] at member ⊢
      grind
  | _ =>
      simp only [perform, randomNumber, synchronize, controlSynchronizer, reseedSynchronizer,
        whenTurn, whenNth, alternative, matchedText, capturedGroup, argument, setNumberFormat,
        setCapitalization, inferCapitalization, openChannel, closeChannel, placeTarget,
        changeTarget, setMarker, distance, randomCharacters, setFlags, whenFlag, otherwise,
        compareTexts, whenCompared, leaveBlock, callHook]
      repeat' first | refine yields_bind fun value => ?_ | split
      all_goals first
        | exact yields_error _
        | refine (yields_ok _).mpr ?_
      -- What is left has changed other things, or printed something.
      all_goals first
        | exact .of_eq rfl rfl
        | exact ⟨.same, List.subset_append_left _ _⟩
        | exact Workspace.handsOn_write _ rfl rfl

variable (context : Context)

/-- What reading a construct has done to the memory. -/
def Reading.HandsOn (workspace : Workspace) (reading : Reading) : Prop :=
  workspace.toMemory.HandsOn [] reading.1.toMemory

namespace Context

theorem handsOn_readBlock (items : Array Span) :
    (context.readBlock workspace items).HandsOn workspace := by
  have used (changed : Workspace) (subroutines : changed.subroutines = workspace.subroutines)
      (attributes : changed.attributes = .standard) :
      workspace.toMemory.HandsOn [] changed.toMemory :=
    ⟨.of_eq subroutines, attributes ▸ List.nil_subset _⟩
  unfold readBlock
  dsimp only
  split
  · exact used _ rfl rfl
  · split <;> split <;> exact used _ rfl rfl

theorem handsOn_writeEntry (position : Position) (query : Vocabulary.Query) :
    Yields (Reading.HandsOn workspace) (context.writeEntry workspace position query) := by
  unfold writeEntry
  split
  · exact yields_error _
  · split
    · exact (yields_ok _).mpr (Workspace.handsOn_write _ rfl rfl)
    · exact yields_error _
    · exact yields_error _

theorem handsOn_readQuery (opener : Token) (opening close : Nat) :
    Yields (Reading.HandsOn workspace) (context.readQuery workspace opener opening close) := by
  simp only [readQuery]
  split
  · exact yields_error _
  · split
    · exact context.handsOn_writeEntry workspace _ _
    · refine (yields_ok _).mpr ?_
      split <;> exact .of_eq rfl rfl
    · split
      · exact context.handsOn_writeEntry workspace _ _
      · exact yields_error _

theorem handsOn_readEscape (token : Token) :
    Yields (Reading.HandsOn workspace) (context.readEscape workspace token) := by
  simp only [readEscape]
  split
  · exact yields_error _
  · split
    · exact yields_error _
    · split
      · exact yields_error _
      · exact (yields_ok _).mpr (Workspace.handsOn_write _ rfl rfl)

theorem handsOn_readTag (opener : Token) (opening close : Nat) :
    Yields (Reading.HandsOn workspace) (context.readTag workspace opener opening close) := by
  simp only [readTag, replace, readSubroutine, callTag, callSubroutine, defineSubroutine]
  repeat' first | refine yields_bind fun value => ?_ | split
  all_goals first
    | exact yields_error _
    | exact (yields_ok _).mpr (.of_eq rfl rfl)
    | exact (yields_ok _).mpr ⟨.define _, List.subset_append_left _ _⟩

theorem handsOn_readConstruct (index stop : Nat) (token : Token) :
    Yields (Reading.HandsOn workspace) (context.readConstruct workspace index stop token) := by
  simp only [readConstruct]
  split
  · exact (yields_ok _).mpr (context.handsOn_readBlock workspace _)
  · exact context.handsOn_readTag workspace _ _ _
  · exact (yields_ok _).mpr (.of_eq rfl rfl)
  · exact context.handsOn_readQuery workspace _ _ _
  · exact yields_error _
  · exact context.handsOn_readEscape workspace _
  · exact (yields_ok _).mpr (Workspace.handsOn_write _ rfl rfl)
  · exact (yields_ok _).mpr (Workspace.handsOn_write _ rfl rfl)

end Context

end Defining

/-- The code that a task hands to a tag. -/
def Task.handed : Task → List Code
  | .callTag call => call.plan.codes
  | _ => []

section Resuming

variable {context : Context} {store : Store} {sink : Nat} {progress : Progress}

namespace Context

theorem handsOn_takeTurn (context : Context) (store : Store) (sink : Nat) (given : List Code) :
    store.toMemory.HandsOn given (context.takeTurn store sink).store.toMemory := by
  unfold takeTurn
  split
  · exact .of_eq rfl rfl
  · split
    · show Memory.HandsOn _ _ (Workspace.chooseItem _ _).2.toMemory
      unfold Workspace.chooseItem
      dsimp only
      split
      · exact .of_eq rfl rfl
      · split <;> exact .of_eq rfl rfl
    · exact .of_eq rfl rfl

theorem toMemory_settlePlan (store : Store) (plan : ArgumentPlan) :
    (store.settlePlan plan).1.toMemory = store.toMemory :=
  (congrArg Store.toMemory (store.settlePlan_eq plan)).trans rfl

theorem handsOn_resumeTag {call : TagCall}
    (resumed : context.resumeTag store sink call = .ok progress) :
    store.toMemory.HandsOn call.plan.codes progress.store.toMemory := by
  have same := toMemory_settlePlan store call.plan
  have held := (store.codes_settlePlan call.plan).2
  unfold resumeTag at resumed
  split at resumed
  · next settled =>
      cases resumed
      rw [settled] at same
      exact same ▸ .of_eq rfl rfl
  · next settledStore done settled =>
      obtain ⟨outcome, performed, rfl⟩ := map_eq_ok.mp resumed
      obtain ⟨subroutines, attributes⟩ := Invocation.handsOn_perform _ _ _ outcome performed
      rw [settled] at same held
      have follows : (settledStore.follow sink outcome).store.toMemory =
          outcome.workspace.toMemory := by
        rw [Store.follow]
        cases outcome.request <;> rfl
      rw [follows, ← same]
      refine ⟨subroutines, List.Subset.trans attributes (append_subset_append_right _ ?_)⟩
      simpa using held

theorem handsOn_resumeSubroutine (context : Context) (store : Store) (call : SubroutineCall)
    (given : List Code) :
    store.toMemory.HandsOn given (context.resumeSubroutine store call).store.toMemory := by
  have same := toMemory_settlePlan store call.plan
  unfold resumeSubroutine
  split <;>
    next settled =>
      rw [settled] at same
      exact same ▸ .of_eq rfl rfl

theorem handsOn_replaceNext {before : Memory} (context : Context) (sink : Nat)
    (replacement : Replacement) (given : List Code) (same : store.toMemory = before) :
    before.HandsOn given (context.replaceNext store sink replacement).store.toMemory := by
  subst same
  unfold replaceNext
  split
  · exact Workspace.handsOn_write _ rfl rfl
  · exact .of_eq rfl rfl

/-- Only code that has made the body of a subroutine defines one. -/
theorem handsOn_resume {task : Task} (resumed : context.resume store sink task = .ok progress) :
    store.toMemory.HandsOn task.handed progress.store.toMemory := by
  cases task with
  | takeTurn =>
      cases resumed
      exact handsOn_takeTurn _ _ _ _
  | callTag call => exact handsOn_resumeTag resumed
  | callSubroutine call =>
      cases resumed
      exact handsOn_resumeSubroutine _ _ _ _
  | findMatches regex code | replaceMatches replacement =>
      cases resumed
      exact handsOn_replaceNext _ _ _ _ rfl
  | runGenerated =>
      obtain ⟨code, -, rfl⟩ := map_eq_ok.mp resumed
      exact .of_eq rfl rfl
  | settleArithmetic isStatement position =>
      obtain ⟨workspace, settled, rfl⟩ := map_eq_ok.mp resumed
      unfold settleArithmetic at settled
      split at settled
      · cases settled
      · cases settled
        split
        · exact .of_eq rfl rfl
        · exact Workspace.handsOn_write _ rfl rfl
  | defineGenerated name parameters =>
      obtain ⟨workspace, defined, rfl⟩ := map_eq_ok.mp resumed
      obtain ⟨pattern, -, rfl⟩ := map_eq_ok.mp defined
      exact ⟨.define _, List.subset_append_left _ _⟩

theorem toMemory_complete (context : Context) (store : Store) (sink : Nat)
    (completion : Completion) :
    (context.complete store sink completion).store.toMemory = store.toMemory := by
  cases completion with
  | dropComparison | dropBindings => rfl
  | settleTrial fallback blankIsEmpty =>
      unfold complete
      dsimp only
      split <;> rfl

theorem toMemory_begin (context : Context) (store : Store) (depth : Nat)
    (construct : Construct) :
    (context.begin store depth construct).store.toMemory = store.toMemory := by
  cases construct <;> rfl

end Context

end Resuming

/-! ### Runs -/

/-- What holds of all tasks that constructs leave, and of those that tasks with the property leave.
Constructs are read where the subroutines are usable. -/
structure Task.Inherited (usable : Subroutines → Prop) (holds : Pattern → Task → Prop) : Prop where
  left : ∀ {pattern : Pattern} {store : Store} {task left : Task}, holds pattern task →
    task.Leaves store left → holds pattern left
  read : ∀ {context : Context} {workspace changed : Workspace} {index stop : Nat} {token : Token}
    {construct : Construct} {left : Task}, usable workspace.subroutines →
    context.pattern.tokens[index]? = some token →
    context.constructStop index token = .ok stop →
    context.readConstruct workspace index stop token = .ok (changed, construct) →
    construct.task? = some left → holds context.pattern left

section Runs

variable {engine next : Engine} {pattern : Pattern} {seed : UInt64} {store : Store}
  {top : Activation} {beneath : List Activation} {progress : Progress}
  {configuration reached : Configuration} {usable : Subroutines → Prop}
  {holds : Pattern → Task → Prop}

/-- A property of subroutines that defining one keeps. -/
def Subroutines.Kept (usable : Subroutines → Prop) : Prop :=
  ∀ (subroutines : Subroutines) (subroutine : Subroutine), usable subroutines →
    usable (subroutines.define subroutine)

theorem Subroutines.Kept.extends {before after : Subroutines} (kept : Kept usable)
    (defines : before.Extends after) (held : usable before) : usable after := by
  cases defines with
  | same => exact held
  | define subroutine => exact kept before subroutine held

namespace Configuration

theorem toMemory_leave (left : leave engine store top beneath = .ok reached) :
    reached.store.toMemory = store.toMemory := by
  have released := memory_release store top
  unfold leave at left
  split at left
  · exact (memory_settle left).trans ((Context.toMemory_complete _ _ _ _).trans released)
  · cases left
    exact released

/-- A step defines at most one subroutine. -/
theorem Steps.extends (steps : Steps engine configuration reached)
    (wellStacked : WellStacked engine configuration) :
    configuration.store.subroutines.Extends reached.store.subroutines := by
  obtain @⟨store, top, beneath, reached, stepped⟩ := steps
  cases stepped_of_step (wellStacked.ordered.tasks top List.mem_cons_self) stepped with
  | resume task progress tasks resumed settled =>
      exact memory_settle settled ▸ (Context.handsOn_resume resumed).subroutines
  | leave idle ended left => exact .of_eq (congrArg Memory.subroutines (toMemory_leave left))
  | read token stop workspace construct idle next stopped reading settled =>
      rw [memory_settle settled, Context.toMemory_begin]
      exact (Context.handsOn_readConstruct _ _ _ _ _ _ reading).subroutines

theorem Reachable.subroutines (kept : Subroutines.Kept usable) (held : usable engine.subroutines)
    (reachable : Reachable engine pattern seed configuration) :
    usable configuration.store.subroutines := by
  induction reachable with
  | refl => exact held
  | tail reachable steps inductionHypothesis =>
      exact kept.extends (steps.extends (Reachable.wellStacked reachable)) inductionHypothesis

/-- A step hands the property of tasks on. -/
theorem Steps.tasks (inherited : Task.Inherited usable holds)
    (steps : Steps engine configuration reached) (wellStacked : WellStacked engine configuration)
    (held : usable configuration.store.subroutines)
    (tasks : ∀ activation ∈ configuration.stack, ∀ task ∈ activation.tasks,
      holds activation.pattern task) :
    ∀ activation ∈ reached.stack, ∀ task ∈ activation.tasks, holds activation.pattern task := by
  obtain @⟨store, top, beneath, reached, stepped⟩ := steps
  have lower : ∀ activation ∈ beneath, ∀ task ∈ activation.tasks, holds activation.pattern task :=
    fun activation member => tasks activation (List.mem_cons_of_mem _ member)
  have settles {renewed : Activation} {others : List Activation} {progress : Progress}
      (settled : settle engine renewed others progress = .ok reached)
      (top : ∀ task ∈ renewed.tasks, holds renewed.pattern task)
      (others : ∀ activation ∈ others, ∀ task ∈ activation.tasks,
        holds activation.pattern task) :
      ∀ activation ∈ reached.stack, ∀ task ∈ activation.tasks, holds activation.pattern task := by
    intro activation member
    rcases (origin_of_settle settled).2 activation member with ⟨entry, -, sink, rfl⟩ | present
    · simp
    · rcases List.mem_cons.mp present with rfl | there
      · exact top
      · exact others activation there
  cases stepped_of_step (wellStacked.ordered.tasks top List.mem_cons_self) stepped with
  | resume task progress waiting resumed settled =>
      refine settles settled (fun left member => ?_) lower
      have own := tasks top List.mem_cons_self task (by simp [waiting])
      exact inherited.left own (Context.leaves_resume resumed (Option.mem_toList.mp member))
  | leave idle ended left =>
      unfold leave at left
      split at left
      · next completion below others completes =>
          exact settles left (lower below List.mem_cons_self)
            fun activation member => lower activation (List.mem_cons_of_mem _ member)
      · cases left
        exact lower
  | read token stop workspace construct idle next stopped reading settled =>
      refine settles settled (fun left member => ?_) lower
      rw [Context.task_begin] at member
      exact inherited.read held (Code.read_of_tokenAt? next).2 stopped reading
        (Option.mem_toList.mp member)

/-- Throughout a run the property holds of every task. -/
theorem Reachable.tasks (inherited : Task.Inherited usable holds) (kept : Subroutines.Kept usable)
    (held : usable engine.subroutines)
    (reachable : Reachable engine pattern seed configuration) :
    ∀ activation ∈ configuration.stack, ∀ task ∈ activation.tasks,
      holds activation.pattern task := by
  induction reachable with
  | refl => simp [start]
  | tail reachable steps inductionHypothesis =>
      exact steps.tasks inherited (Reachable.wellStacked reachable)
        (Reachable.subroutines kept held reachable) inductionHypothesis

end Configuration

/-- What holds of no subroutines, and is kept by defining one, holds of those of a prelude. -/
theorem subroutines_withPrelude {prelude : List PreludePattern} (kept : Subroutines.Kept usable)
    (held : usable engine.subroutines) (made : engine.withPrelude prelude = .ok next) :
    usable next.subroutines := by
  refine subroutines_of_withPrelude usable ?_ held made
  intro engine entry pattern configuration compiled held reachable
  exact Configuration.Reachable.subroutines kept held reachable

end Runs

end SeededText.Machine
