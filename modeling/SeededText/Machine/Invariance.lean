import SeededText.Machine.Discipline

/-!
Contract: steps keep the invariant of a run.

Owns: what each kind of step does to the heights of the stacks.
Does not own: the invariant itself (`SeededText.Machine.Discipline`).
-/

namespace SeededText.Machine

/-! ### Stores of one shape -/

@[simp] theorem Store.shape_absorb (store : Store) (sink : Nat) (workspace : Workspace) :
    (store.absorb sink workspace).shape = store.shape := by
  simp [Store.shape, Store.absorb]

@[simp] theorem Store.shape_dropResult (store : Store) : store.dropResult.shape = store.shape := rfl

@[simp] theorem Store.results_absorb (store : Store) (sink : Nat) (workspace : Workspace) :
    (store.absorb sink workspace).results = store.results := rfl

/-! ### Entering code -/

/-- The shape with what pieces of code drop at their end. -/
def Shape.prepare (shape : Shape) (entries : List Entry) : Shape :=
  { shape with
    comparisons := shape.comparisons + entries.countP (Entry.drops .dropComparison)
    bindings := shape.bindings + entries.countP (Entry.drops .dropBindings) }

/-- What holds before pieces of code are entered on top of an activation: what they drop is there,
no result is left, and the activation awaits a result just if the lowest gives one. -/
structure Ready (store : Store) (top : Activation) (beneath : List Activation)
    (entries : List Entry) : Prop where
  ordered : Ordered (top :: beneath)
  shape : store.shape = (shapeOf (top :: beneath)).prepare entries
  results : store.results = []
  awaits : top.awaitsResult = entries.head?.any Entry.givesResult
  shared : ∀ entry ∈ entries.tail, entry.givesResult = false
  fits : ∀ entry ∈ entries, Completion.Fits entry.ownsSink entry.completion?

section Entering

variable {engine : Engine} {store : Store} {top : Activation} {beneath : List Activation}
  {entry : Entry} {entries : List Entry} {reached : Configuration}

namespace Configuration

theorem enter_ok (entered : enter engine entry ⟨store, top :: beneath⟩ = .ok reached) :
    beneath.length + 1 < engine.settings.maxStackDepth ∧
      reached = ⟨(store.provide entry top.sink).1,
        .enter entry (store.provide entry top.sink).2 :: top :: beneath⟩ := by
  simp only [enter] at entered
  split at entered
  · cases entered
  · cases entered
    exact ⟨by omega, rfl⟩

end Configuration

theorem Store.shape_provide (store : Store) (entry : Entry) (sink : Nat) :
    (store.provide entry sink).1.shape =
      { store.shape with sinks := store.shape.sinks + entry.ownsSink.toNat } := by
  unfold provide
  cases entry.ownsSink <;> simp [shape]

theorem Store.results_provide (store : Store) (entry : Entry) (sink : Nat) :
    (store.provide entry sink).1.results = store.results := by
  unfold provide
  split <;> rfl

theorem Store.repeaters_provide (store : Store) (entry : Entry) (sink : Nat) :
    (store.provide entry sink).1.repeaters = store.repeaters := by
  unfold provide
  split <;> rfl

/-- Behind the lowest piece the others wait. -/
theorem Ready.enter (ready : Ready store top beneath (entry :: entries)) :
    Ready (store.provide entry top.sink).1
      (.enter entry (store.provide entry top.sink).2) (top :: beneath) entries := by
  have shape := ready.shape
  refine ⟨⟨⟨?_, ready.ordered.indexed⟩, ⟨?_, ?_, ready.ordered.linked⟩, ?_⟩, ?_, ?_, ?_, ?_, ?_⟩
  · have sinks := congrArg Shape.sinks shape
    have indexed := ready.ordered.indexed.1
    simp only [Store.shape, Shape.prepare] at sinks
    simp only [shapeOf_cons _ (top :: beneath), Shape.keep, Shape.queue,
      Activation.enter, Store.provide]
    cases entry.ownsSink
    · simpa using indexed
    · simpa using sinks
  · exact ready.awaits
  · exact ready.fits entry (List.mem_cons_self)
  · intro activation member
    rcases List.mem_cons.mp member with same | inside
    · exact same ▸ Nat.zero_le _
    · exact ready.ordered.tasks activation inside
  · rw [Store.shape_provide, shape, shapeOf_cons _ (top :: beneath)]
    simp [Shape.keep, Shape.prepare, countP_cons_eq_toNat_add, Nat.add_assoc]
  · rw [Store.results_provide]
    exact ready.results
  · cases entries with
    | nil => rfl
    | cons next later => exact (ready.shared next (List.mem_cons_self)).symm
  · exact fun later member => ready.shared later (List.mem_of_mem_tail member)
  · exact fun later member => ready.fits later (List.mem_cons_of_mem entry member)

/-- Once nothing more is to be entered, the run is in order. -/
theorem Ready.wellStacked (ready : Ready store top beneath [])
    (height : beneath.length + 1 ≤ heightLimit engine) :
    WellStacked engine ⟨store, top :: beneath⟩ where
  ordered := ready.ordered
  shape := ready.shape
  results := by
    have awaits := ready.awaits
    simp only [List.head?_nil, Option.any_none] at awaits
    simp [awaited, ready.results, awaits]
  height := height

theorem Ready.enterAll (ready : Ready store top beneath entries)
    (height : beneath.length + 1 ≤ heightLimit engine)
    (entered : Configuration.enterAll engine entries ⟨store, top :: beneath⟩ = .ok reached) :
    WellStacked engine reached := by
  induction entries generalizing store top beneath with
  | nil =>
      cases entered
      exact ready.wellStacked height
  | cons entry entries inductionHypothesis =>
      obtain ⟨higher, first, entered⟩ := bind_eq_ok.mp entered
      obtain ⟨room, rfl⟩ := Configuration.enter_ok first
      refine inductionHypothesis ready.enter ?_ entered
      simp only [heightLimit, List.length_cons]
      omega

end Entering

/-! ### Leaving a block -/

section Unwinding

variable {engine : Engine} {store : Store} {top base : Activation}
  {stack above beneath : List Activation} {reached : Configuration}

/-- Activations that take no turns hold sinks and heights, but no bases. -/
theorem shapeOf_append (beneath : List Activation)
    (idle : ∀ activation ∈ above, activation.takesTurns = false) :
    ∃ comparisons bindings matchStack,
      shapeOf (above ++ beneath) =
        { shapeOf beneath with
          sinks := (shapeOf beneath).sinks + above.countP Activation.ownsSink
          comparisons := (shapeOf beneath).comparisons + comparisons
          bindings := (shapeOf beneath).bindings + bindings
          matchStack := (shapeOf beneath).matchStack + matchStack } := by
  induction above with
  | nil => exact ⟨0, 0, 0, rfl⟩
  | cons top above inductionHypothesis =>
      obtain ⟨comparisons, bindings, matchStack, shape⟩ :=
        inductionHypothesis fun activation member =>
          idle activation (List.mem_cons_of_mem top member)
      have noTurn : top.tasks.any Task.takesTurn = false := idle top List.mem_cons_self
      refine ⟨comparisons + (top.drops .dropComparison).toNat,
        bindings + (top.drops .dropBindings).toNat,
        matchStack + (top.tasks.any Task.isReplacing).toNat, ?_⟩
      rw [List.cons_append, shapeOf_cons, shape]
      simp only [Shape.keep, Shape.queue, noTurn, countP_cons_eq_toNat_add, Shape.mk.injEq,
        Bool.toNat_false, Bool.false_eq_true, if_false, and_true]
      omega

/-- If there is a repeater, some activation takes turns; the highest belongs to the innermost. -/
theorem exists_turnTaker (turns : (shapeOf stack).repeaters ≠ 0) :
    ∃ above base beneath, stack = above ++ base :: beneath ∧ base.takesTurns = true ∧
      ∀ activation ∈ above, activation.takesTurns = false := by
  induction stack with
  | nil => exact absurd rfl turns
  | cons top beneath inductionHypothesis =>
      cases taking : top.takesTurns with
      | true => exact ⟨[], top, beneath, rfl, taking, by simp⟩
      | false =>
          have noTurn : top.tasks.any Task.takesTurn = false := taking
          have lower : (shapeOf beneath).repeaters ≠ 0 := by
            simpa [shapeOf_cons, Shape.keep, Shape.queue, noTurn] using turns
          obtain ⟨above, base, lowest, same, taking', idle⟩ := inductionHypothesis lower
          refine ⟨top :: above, base, lowest, by rw [same]; rfl, taking', ?_⟩
          intro activation member
          rcases List.mem_cons.mp member with same | inside
          · exact same ▸ taking
          · exact idle activation inside

/-- An activation that takes turns has nothing else to do. -/
theorem Activation.tasks_of_takesTurns {activation : Activation}
    (taking : activation.takesTurns = true) (short : activation.tasks.length ≤ 1) :
    activation.tasks = [.takeTurn] := by
  unfold takesTurns at taking
  cases tasks : activation.tasks with
  | nil => simp [tasks] at taking
  | cons task others =>
      cases others with
      | cons => simp [tasks] at short
      | nil =>
          cases task <;> simp_all [Task.takesTurn]

theorem Store.length_lowest {α : Type} (height : Nat) (stack : List α) :
    (lowest height stack).length = min height stack.length := by
  rw [lowest, List.length_drop]
  omega

/-- The store behind the innermost block, whose activation lies beneath those that are dropped. -/
def Store.behindBlock (store : Store) (repeater : Repeater) (outer : List Repeater)
    (dropped block : List Activation) : Store :=
  { ({ store with repeaters := repeater.finish :: outer }.cutTo (shapeOf block).heights) with
    sinks := store.sinks.take (store.sinks.size - dropped.countP Activation.ownsSink) }

/-- Leaving the innermost block drops the activations above the highest one that takes turns. -/
theorem Ready.leaveBlock_eq {repeater : Repeater} {outer : List Repeater}
    (ready : Ready store top beneath []) (repeaters : store.repeaters = repeater :: outer) :
    ∃ above base lower, top :: beneath = above ++ base :: lower ∧ base.tasks = [.takeTurn] ∧
      (∀ activation ∈ above, activation.takesTurns = false) ∧
      Configuration.leaveBlock ⟨store, top :: beneath⟩ =
        ⟨store.behindBlock repeater outer above (base :: lower), base :: lower⟩ := by
  have shape : store.shape = shapeOf (top :: beneath) := ready.shape
  have turns : (shapeOf (top :: beneath)).repeaters ≠ 0 := by
    rw [← shape]
    simp [Store.shape, repeaters]
  obtain ⟨above, base, lower, stack, taking, idle⟩ := exists_turnTaker turns
  have tasks : base.tasks = [.takeTurn] :=
    Activation.tasks_of_takesTurns taking (ready.ordered.tasks base (by rw [stack]; simp))
  refine ⟨above, base, lower, stack, tasks, idle, ?_⟩
  obtain ⟨comparisons, bindings, matchStack, wide⟩ := shapeOf_append (base :: lower) idle
  have bases : store.bases =
      ⟨lower.length, (shapeOf (base :: lower)).heights⟩ :: (shapeOf lower).bases := by
    have held := congrArg Shape.bases (shape.trans ((congrArg shapeOf stack).trans wide))
    simpa [Store.shape, shapeOf_cons, Shape.queue, Shape.keep, Shape.heights, tasks,
      Task.takesTurn] using held
  have excess : (above ++ base :: lower).length - (lower.length + 1) = above.length := by simp
  have kept : (above ++ base :: lower).drop above.length = base :: lower := by simp
  have dropped : (above ++ base :: lower).take above.length = above := by simp
  simp only [Configuration.leaveBlock, Configuration.unwindTo, Store.behindBlock, repeaters, bases,
    stack, excess, kept, dropped]
  rfl

theorem Ready.behindBlock {repeater : Repeater} {outer : List Repeater} {block : List Activation}
    (ready : Ready store top beneath []) (repeaters : store.repeaters = repeater :: outer)
    (stack : top :: beneath = above ++ block)
    (idle : ∀ activation ∈ above, activation.takesTurns = false) (awaits : awaited block = 0)
    (height : beneath.length + 1 ≤ heightLimit engine) :
    WellStacked engine ⟨store.behindBlock repeater outer above block, block⟩ := by
  obtain ⟨comparisons, bindings, matchStack, wide⟩ := shapeOf_append block idle
  have shape : store.shape = _ := ready.shape.trans ((congrArg shapeOf stack).trans wide)
  simp only [Store.shape, Shape.mk.injEq] at shape
  refine ⟨(stack ▸ ready.ordered).of_append, ?_, ?_, ?_⟩
  · cases whole : shapeOf block
    simp_all [Store.behindBlock, Store.shape, Store.cutTo, Store.length_lowest, Shape.heights]
  · rw [awaits]
    simp [Store.behindBlock, Store.cutTo, ready.results, Store.lowest]
  · have whole := congrArg List.length stack
    simp only [List.length_cons, List.length_append] at whole
    show block.length ≤ heightLimit engine
    omega

theorem Ready.leaveBlock (ready : Ready store top beneath [])
    (height : beneath.length + 1 ≤ heightLimit engine) :
    WellStacked engine (Configuration.leaveBlock ⟨store, top :: beneath⟩) := by
  cases repeaters : store.repeaters with
  | nil =>
      simp only [Configuration.leaveBlock, repeaters]
      exact ready.wellStacked height
  | cons repeater outer =>
      obtain ⟨above, base, lower, stack, tasks, idle, left⟩ := ready.leaveBlock_eq repeaters
      rw [left]
      refine ready.behindBlock repeaters stack idle ?_ height
      simp [awaited, Activation.awaitsResult, tasks, Task.takesResult]

end Unwinding

/-! ### Progress -/

/-- Code that is entered by a change of the stack. -/
def Move.entries : Move → List Entry
  | .enter entries => entries
  | .leaveBlock => []

/-- What a step must leave for the run to be in order: the store holds what the activation on top,
at the index `depth`, needs for the task that it leaves, and what the code that is entered drops. -/
structure Progress.Fits (shape : Shape) (depth : Nat) (progress : Progress) : Prop where
  held : progress.store.shape =
    (shape.queue depth progress.task?.toList).prepare progress.move.entries
  results : progress.store.results = []
  awaits : progress.task?.any Task.takesResult = progress.move.entries.head?.any Entry.givesResult
  shared : ∀ entry ∈ progress.move.entries.tail, entry.givesResult = false
  fits : ∀ entry ∈ progress.move.entries, Completion.Fits entry.ownsSink entry.completion?
  ends : progress.move = .leaveBlock → progress.task? = none

/-- The shape with what a completion drops on top. -/
def Shape.owing (shape : Shape) (completion : Completion) : Shape :=
  { shape with
    comparisons := shape.comparisons + (decide (completion = .dropComparison)).toNat
    bindings := shape.bindings + (decide (completion = .dropBindings)).toNat }

section Handling

variable {context : Context} {store : Store} {sink depth : Nat} {shape : Shape}
  {progress : Progress}

/-- Code that writes where the present activation does needs nothing. -/
theorem Shape.prepare_shared (shape : Shape) (codes : List Code) :
    shape.prepare (codes.map Entry.shared) = shape := by
  have plain (completion : Completion) :
      (codes.map Entry.shared).countP (Entry.drops completion) = 0 := by
    simp [List.countP_eq_zero, Entry.drops, Entry.shared]
  simp [prepare, plain]

/-- A task that takes the result on top leaves none. -/
theorem Store.results_dropResult {results : Bool} (awaited : store.results.length = results.toNat) :
    store.dropResult.results = [] := by
  apply List.eq_nil_of_length_eq_zero
  have atMost := results.toNat_le
  simp only [dropResult, List.length_tail]
  omega

namespace Progress.Fits

variable {elseArmed : Bool}

theorem stay (held : store.shape = shape) (results : store.results = []) :
    Fits shape depth ⟨store, .enter [], elseArmed, none⟩ :=
  ⟨held, results, rfl, by simp [Move.entries], by simp [Move.entries], nofun⟩

theorem enter {entry : Entry} (gives : entry.givesResult = false)
    (fits : Completion.Fits entry.ownsSink entry.completion?)
    (held : store.shape = shape.prepare [entry]) (results : store.results = []) :
    Fits shape depth ⟨store, .enter [entry], elseArmed, none⟩ :=
  ⟨held, results, by simpa [Move.entries] using gives.symm, by simp [Move.entries],
    by simpa [Move.entries] using fits, nofun⟩

theorem gather {code : Code} {task : Task} (takes : task.takesResult = true)
    (held : store.shape = shape.queue depth [task]) (results : store.results = []) :
    Fits shape depth ⟨store, .enter [.apart code], elseArmed, some task⟩ :=
  ⟨held, results, takes, by simp [Move.entries],
    by simp [Move.entries, Entry.apart, Completion.Fits], nofun⟩

theorem enterShared {task : Task} (codes : List Code) (plain : task.takesResult = false)
    (held : store.shape = shape.queue depth [task]) (results : store.results = []) :
    Fits shape depth ⟨store, .enter (codes.map .shared), elseArmed, some task⟩ := by
  refine ⟨?_, results, ?_, ?_, ?_, nofun⟩
  · rw [Move.entries, Shape.prepare_shared]
    exact held
  · cases codes with
    | nil => exact plain
    | cons code codes => exact plain
  · simp [Move.entries, ← List.map_tail, Entry.givesResult, Entry.shared]
  · simp [Move.entries, Entry.shared, Completion.Fits]

theorem leaveTask {task : Task} (plain : task.takesResult = false)
    (held : store.shape = shape.queue depth [task]) (results : store.results = []) :
    Fits shape depth ⟨store, .enter [], elseArmed, some task⟩ :=
  enterShared [] plain held results

/-- What a tag asks for drops what has been put on the stacks for it. -/
theorem grant (request : Request) (held : store.shape = shape) (results : store.results = []) :
    Fits shape depth ⟨(store.grant request).1, (store.grant request).2, elseArmed, none⟩ := by
  cases request with
  | nothing => exact stay held results
  | run code =>
      refine enter rfl trivial ?_ results
      exact held.trans (shape.prepare_shared [code]).symm
  | attempt trial fallback blankIsEmpty => exact enter rfl rfl held results
  | compare comparison body =>
      refine enter rfl rfl ?_ results
      subst held
      rfl
  | leaveBlock =>
      exact ⟨held, results, rfl, by simp [Store.grant, Move.entries],
        by simp [Store.grant, Move.entries], fun _ => rfl⟩

end Progress.Fits

namespace Context

/-- What is left of a construct is held for its task. -/
theorem fits_begin (construct : Construct) (held : store.shape = shape)
    (results : store.results = []) : (context.begin store depth construct).Fits shape depth := by
  cases construct with
  | nothing => exact .stay held results
  | block repeater =>
      refine .leaveTask rfl ?_ results
      subst held
      simp [Store.shape, Store.heights, Shape.queue, Shape.heights, results, Task.takesTurn,
        Task.isReplacing]
  | tag operation position planned => exact .leaveTask rfl held results
  | call subroutine position planned => exact .leaveTask rfl held results
  | replacer regex input replacement => exact .gather rfl held results
  | generated source => exact .gather rfl held results
  | arithmetic isStatement position source => exact .gather rfl held results
  | definition name parameters source => exact .gather rfl held results

/-- A turn enters code that writes where the block does; behind the last turn nothing is held. -/
theorem fits_takeTurn (held : store.shape = shape.queue depth [.takeTurn])
    (results : store.results = []) : (context.takeTurn store sink).Fits shape depth := by
  have repeats := congrArg Shape.repeaters held
  simp only [Store.shape, Shape.queue, List.any_cons, List.any_nil, Task.takesTurn,
    Bool.or_false, Bool.toNat_true] at repeats
  unfold takeTurn
  split
  · next none => simp [none] at repeats
  · next repeater outer some =>
      split
      · refine .enterShared _ rfl ?_ results
        rw [← held, Store.shape_absorb]
        simp [Store.shape, some]
      · refine .stay ?_ results
        cases shape
        simp_all [Store.shape, Shape.queue, Task.takesTurn, Task.isReplacing]

/-- The text for an argument is taken before anything else is evaluated. -/
theorem settlePlan_fits {plan : ArgumentPlan} {settled : Store} {done : List Argument}
    {next? : Option (Code × List PlannedArgument)}
    (found : store.settlePlan plan = (settled, done, next?))
    (results : store.results.length = plan.isAwaiting.toNat) :
    settled.shape = store.shape ∧ settled.results = [] := by
  unfold Store.settlePlan at found
  split at found
  · obtain ⟨rfl, -⟩ := Prod.mk.inj found
    exact ⟨rfl, Store.results_dropResult results⟩
  · next idle =>
      obtain ⟨rfl, -⟩ := Prod.mk.inj found
      exact ⟨rfl, List.eq_nil_of_length_eq_zero (by simpa [idle] using results)⟩

theorem fits_resumeTag {call : TagCall} (held : store.shape = shape)
    (results : store.results.length = call.plan.isAwaiting.toNat)
    (resumed : context.resumeTag store sink call = .ok progress) : progress.Fits shape depth := by
  unfold resumeTag at resumed
  split at resumed
  · next settled =>
      obtain ⟨same, empty⟩ := settlePlan_fits settled results
      cases resumed
      exact .gather rfl (same.trans held) empty
  · next settledStore done settled =>
      obtain ⟨same, empty⟩ := settlePlan_fits settled results
      obtain ⟨outcome, performed, rfl⟩ := map_eq_ok.mp resumed
      exact .grant outcome.request ((Store.shape_absorb _ _ _).trans (same.trans held)) empty

theorem fits_resumeSubroutine {call : SubroutineCall} (held : store.shape = shape)
    (results : store.results.length = call.plan.isAwaiting.toNat) :
    (context.resumeSubroutine store call).Fits shape depth := by
  unfold resumeSubroutine
  split
  · next settled =>
      obtain ⟨same, empty⟩ := settlePlan_fits settled results
      exact .gather rfl (same.trans held) empty
  · next settled =>
      obtain ⟨same, empty⟩ := settlePlan_fits settled results
      refine .enter rfl rfl ?_ empty
      rw [← held, ← same]
      rfl

/-- The match that a replacement is made for is held until its text is there. -/
theorem fits_replaceNext (replacement : Replacement) (held : store.shape = shape)
    (results : store.results = []) :
    (context.replaceNext store sink replacement).Fits shape depth := by
  unfold replaceNext
  split
  · exact .stay ((Store.shape_absorb _ _ _).trans held) results
  · refine .gather rfl ?_ results
    subst held
    rfl

theorem fits_resume {task : Task} (held : store.shape = shape.queue depth [task])
    (results : store.results.length = task.takesResult.toNat)
    (resumed : context.resume store sink task = .ok progress) : progress.Fits shape depth := by
  cases task with
  | takeTurn =>
      cases resumed
      exact fits_takeTurn held (List.eq_nil_of_length_eq_zero results)
  | callTag call => exact fits_resumeTag held results resumed
  | callSubroutine call =>
      cases resumed
      exact fits_resumeSubroutine held results
  | findMatches regex code =>
      cases resumed
      exact fits_replaceNext _ held (Store.results_dropResult results)
  | replaceMatches replacement =>
      cases resumed
      refine fits_replaceNext _ ?_ (Store.results_dropResult results)
      cases shape
      simp_all [Store.shape, Store.dropResult, Shape.queue, Task.takesTurn, Task.isReplacing]
  | runGenerated =>
      obtain ⟨code, -, rfl⟩ := map_eq_ok.mp resumed
      refine .enter rfl trivial ?_ (Store.results_dropResult results)
      exact held.trans (shape.prepare_shared [code]).symm
  | settleArithmetic isStatement position =>
      obtain ⟨workspace, -, rfl⟩ := map_eq_ok.mp resumed
      exact .stay ((Store.shape_absorb _ _ _).trans held) (Store.results_dropResult results)
  | defineGenerated name parameters =>
      obtain ⟨workspace, -, rfl⟩ := map_eq_ok.mp resumed
      exact .stay ((Store.shape_absorb _ _ _).trans held) (Store.results_dropResult results)

/-- What an activation drops at its end is dropped, and a trial is taken over or replaced. -/
theorem fits_complete (context : Context) (sink depth : Nat) {completion : Completion}
    {ownsSink : Bool} (fits : Completion.Fits ownsSink (some completion))
    (held : store.shape = shape.owing completion)
    (results : store.results.length = ownsSink.toNat) :
    (context.complete store sink completion).Fits shape depth ∧
      (context.complete store sink completion).task? = none := by
  cases completion with
  | dropComparison =>
      obtain rfl : ownsSink = false := fits
      refine ⟨.stay ?_ (List.eq_nil_of_length_eq_zero results), rfl⟩
      cases shape
      simp_all [Store.shape, Shape.owing]
  | dropBindings =>
      obtain rfl : ownsSink = false := fits
      refine ⟨.stay ?_ (List.eq_nil_of_length_eq_zero results), rfl⟩
      cases shape
      simp_all [Store.shape, Shape.owing]
  | settleTrial fallback blankIsEmpty =>
      have empty := Store.results_dropResult results
      unfold complete
      dsimp only
      split
      · refine ⟨.enter rfl trivial ?_ empty, rfl⟩
        exact held.trans (shape.prepare_shared [fallback]).symm
      · exact ⟨.stay ((Store.shape_absorb _ _ _).trans held) empty, rfl⟩

end Context

end Handling

/-! ### Steps -/

section Stepping

variable {engine : Engine} {store : Store} {top : Activation} {beneath : List Activation}
  {progress : Progress} {configuration reached : Configuration}

namespace Configuration

/-- A sink that an activation owns is taken from the others at its end. -/
theorem shape_release (store : Store) (top : Activation) :
    (release store top).shape =
      { store.shape with sinks := store.shape.sinks - top.ownsSink.toNat } := by
  unfold release
  cases top.ownsSink <;> simp [Store.shape]

theorem length_results_release (store : Store) (top : Activation) :
    (release store top).results.length = store.results.length + top.ownsSink.toNat := by
  unfold release
  cases top.ownsSink <;> rfl

end Configuration

theorem any_toList {α : Type} (test : α → Bool) (value? : Option α) :
    value?.toList.any test = value?.any test := by
  cases value? <;> simp

/-- What fits is ready for the change of the stack. -/
theorem Progress.Fits.ready {shape : Shape} {depth : Nat} (fits : progress.Fits shape depth)
    (ordered : Ordered (top :: beneath))
    (held : shape.queue depth progress.task?.toList = shapeOf (top :: beneath))
    (awaits : top.awaitsResult = progress.task?.any Task.takesResult) :
    Ready progress.store { top with elseArmed := progress.elseArmed } beneath
      progress.move.entries where
  ordered := ordered.renew top.cursor progress.elseArmed (ordered.tasks top List.mem_cons_self)
  shape := fits.held.trans (congrArg (Shape.prepare · progress.move.entries) held)
  results := fits.results
  awaits := awaits.trans fits.awaits
  shared := fits.shared
  fits := fits.fits

/-- What fits is ready, if the activation on top goes on with the task that is left. -/
theorem Progress.Fits.ready_renew (ordered : Ordered (top :: beneath)) (cursor : Nat)
    (fits : progress.Fits ((shapeOf beneath).keep top) beneath.length) :
    Ready progress.store
      { top with
        cursor := cursor, tasks := progress.task?.toList, elseArmed := progress.elseArmed }
      beneath progress.move.entries := by
  have renewed : Ordered
      ({ top with cursor := cursor, tasks := progress.task?.toList } :: beneath) :=
    ordered.renew cursor top.elseArmed Option.length_toList_le
  exact fits.ready renewed rfl (any_toList _ _)

namespace WellStacked

theorem start (engine : Engine) (pattern : Pattern) (seed : UInt64) :
    WellStacked engine (.start engine pattern seed) where
  ordered := ⟨⟨rfl, trivial⟩, ⟨rfl, rfl⟩, by simp [Configuration.start]⟩
  shape := rfl
  results := rfl
  height := Nat.le_max_left 1 engine.settings.maxStackDepth

/-- What fits keeps the run in order. -/
theorem settle (ready : Ready progress.store { top with elseArmed := progress.elseArmed } beneath
      progress.move.entries)
    (height : beneath.length + 1 ≤ heightLimit engine)
    (settled : Configuration.settle engine top beneath progress = .ok reached) :
    WellStacked engine reached := by
  unfold Configuration.settle at settled
  cases move : progress.move with
  | enter entries =>
      rw [move] at ready settled
      exact ready.enterAll height settled
  | leaveBlock =>
      rw [move] at ready settled
      cases settled
      exact ready.leaveBlock height

theorem leave (wellStacked : WellStacked engine ⟨store, top :: beneath⟩) (idle : top.tasks = [])
    (left : Configuration.leave engine store top beneath = .ok reached) :
    WellStacked engine reached := by
  obtain ⟨ordered, shape, results, height⟩ := wellStacked
  have released := Configuration.shape_release store top
  have given := Configuration.length_results_release store top
  simp only [shapeOf_cons, awaited, Activation.awaitsResult, idle, List.any_nil,
    Bool.toNat_false, Shape.queue_nil] at shape results
  rw [shape] at released
  rw [results, Nat.zero_add] at given
  have lower : beneath.length ≤ heightLimit engine := by
    simp only [List.length_cons] at height
    omega
  unfold Configuration.leave at left
  split at left
  · next completion below others completes =>
      obtain ⟨awaits, fits, -⟩ := ordered.linked
      simp only [Activation.givesResult, completes, Option.isNone_some, Bool.and_false] at awaits
      rw [completes] at fits
      have owing : (Configuration.release store top).shape =
          (shapeOf (below :: others)).owing completion := by
        rw [released]
        simp [Shape.keep, Shape.owing, Activation.drops, completes]
      have settled := Context.fits_complete
        (below.context engine (Configuration.release store top)) below.sink others.length fits
        owing given
      refine settle (settled.1.ready ordered.tail ?_ ?_) lower left
      · rw [settled.2]
        rfl
      · rw [settled.2]
        exact awaits
  · next beneath _ _ uncompleted =>
      have completion : top.completion? = none := by
        cases beneath with
        | nil => exact ordered.linked.2
        | cons below others =>
            cases completes : top.completion? with
            | none => rfl
            | some completion => exact (uncompleted completion below others completes rfl).elim
      cases left
      refine ⟨ordered.tail, released.trans ?_, given.trans ?_, lower⟩
      · simp [Shape.keep, Activation.drops, completion]
      · cases beneath with
        | nil => exact congrArg Bool.toNat ordered.linked.1
        | cons below others =>
            have awaits := ordered.linked.1
            rw [Activation.givesResult, completion, Option.isNone_none, Bool.and_true] at awaits
            exact congrArg Bool.toNat awaits.symm

/-- Progress of the activation on top fits, when it goes on with its task. -/
theorem fits_resume {task : Task} (wellStacked : WellStacked engine ⟨store, top :: beneath⟩)
    (tasks : top.tasks = [task])
    (resumed : (top.context engine store).resume store top.sink task = .ok progress) :
    progress.Fits ((shapeOf beneath).keep top) beneath.length := by
  have shape := wellStacked.shape
  have results := wellStacked.results
  simp only [shapeOf_cons, awaited, Activation.awaitsResult, tasks, List.any_cons, List.any_nil,
    Bool.or_false] at shape results
  exact Context.fits_resume shape results resumed

/-- Progress of the activation on top fits, when it has read a construct. -/
theorem fits_begin (wellStacked : WellStacked engine ⟨store, top :: beneath⟩)
    (idle : top.tasks = []) (workspace : Workspace) (construct : Construct) :
    ((top.context engine store).begin (store.absorb top.sink workspace) beneath.length
      construct).Fits ((shapeOf beneath).keep top) beneath.length := by
  have shape := wellStacked.shape
  have results := wellStacked.results
  simp only [shapeOf_cons, awaited, Activation.awaitsResult, idle, List.any_nil,
    Bool.toNat_false, Shape.queue_nil] at shape results
  exact Context.fits_begin construct ((Store.shape_absorb _ _ _).trans shape)
    (List.eq_nil_of_length_eq_zero results)

/-- A step keeps the run in order. -/
theorem step (wellStacked : WellStacked engine ⟨store, top :: beneath⟩)
    (stepped : Configuration.step engine store top beneath = .ok reached) :
    WellStacked engine reached := by
  have ordered := wellStacked.ordered
  cases Configuration.stepped_of_step (ordered.tasks top List.mem_cons_self) stepped with
  | resume task progress tasks resumed settled =>
      exact settle ((wellStacked.fits_resume tasks resumed).ready_renew ordered top.cursor)
        wellStacked.height settled
  | leave idle ended left => exact wellStacked.leave idle left
  | read token stop workspace construct idle next stopped reading settled =>
      exact settle ((wellStacked.fits_begin idle workspace construct).ready_renew ordered stop)
        wellStacked.height settled

end WellStacked

end Stepping

end SeededText.Machine
