import SeededText.Proofs.Breaks

/-!
Contract: the pieces of a turn run one after the other, each to its end.

While a piece runs, code is entered above it and done with, nested blocks are entered and left, and
subroutines are called. All that comes and goes above the pieces that wait and above the activation
of the block. The only way past it is a `break` that is not in a nested block. So without one, and
if nothing fails, the piece comes to its end, and the next one is on top of the stack; and in
between, the block and its repeater are where they were.

Owns: what a step does that is no `break`, a turn under way, running the pieces of a turn.
Does not own: which pieces a turn has, and how turns follow each other
(`SeededText.Proofs.Iteration`).
-/

namespace SeededText.Machine

open SeededText.Machine.Configuration

/-! ### Turns under way -/

namespace Configuration

/-- The block lies on the stack, and the given repeaters lie beneath those of blocks that have been
entered in it. -/
def InTurn (block : List Activation) (repeaters : List Repeater) (configuration : Configuration) :
    Prop :=
  ∃ above nested, configuration.stack = above ++ block ∧
    configuration.store.repeaters = nested ++ repeaters ∧
    nested.length = above.countP Activation.takesTurns

/-- The block is open, and no block in it is. -/
def IsDirectlyIn (block : List Activation) (configuration : Configuration) : Prop :=
  ∃ above, configuration.stack = above ++ block ∧
    ∀ activation ∈ above, activation.takesTurns = false

/-- As long as the block is open, no step fails and none is a `break` out of it. -/
structure RunsThrough (engine : Engine) (block : List Activation) (inside : Configuration) :
    Prop where
  succeeds : ∀ configuration fault, StaysOpen engine block inside configuration →
    ¬ configuration.Ends engine (some fault)
  stays : ∀ configuration, StaysOpen engine block inside configuration →
    configuration.IsDirectlyIn block → ¬ configuration.IsAtBreak

/-- Steps that neither finish nor drop the activation at an index, with a turn under way all the
time. -/
abbrev ReachesInTurn (engine : Engine) (block : List Activation) (repeaters : List Repeater)
    (index : Nat) : Configuration → Configuration → Prop :=
  Relation.ReflTransGen fun before after =>
    StepsWith engine index before after ∧ after.InTurn block repeaters

/-- Pieces of code that lie on the stack above a block, the first on top, run in their order, each
from its start to its end, until the block is on top again. -/
inductive RunsInOrder (engine : Engine) (block : List Activation) (repeaters : List Repeater)
    (sink : Nat) : List Code → Configuration → Configuration → Prop where
  | done {configuration : Configuration} (stack : configuration.stack = block) :
      RunsInOrder engine block repeaters sink [] configuration configuration
  | piece {code : Code} {others : List Code} {first ended left last : Configuration}
      {later : Activation}
      (starts : first.stack = entered (code :: others) sink ++ block)
      (runs : ReachesInTurn engine block repeaters (entered others sink ++ block).length first
        ended)
      (stack : ended.stack = later :: (entered others sink ++ block))
      (continues : later.Continues (.enter (.shared code) sink))
      (atEnd : later.IsAtEnd)
      (leaves : Steps engine ended left)
      (stays : left.InTurn block repeaters)
      (rest : RunsInOrder engine block repeaters sink others left last) :
      RunsInOrder engine block repeaters sink (code :: others) first last

end Configuration

/-! ### Blocks that run through -/

section RunningThrough

variable {engine : Engine} {store : Store} {top : Activation} {beneath block : List Activation}
  {inside next configuration : Configuration}

theorem Configuration.not_isAtBreak (plain : ∀ call, top.tasks ≠ [.callTag call]) :
    ¬ IsAtBreak ⟨store, top :: beneath⟩ := by
  rintro ⟨_, _, call, same, tasks, -⟩
  obtain ⟨rfl, rfl⟩ := List.cons.inj same
  exact plain call tasks

/-- While a block is open, a configuration is the first or lies behind the first step. -/
theorem Configuration.StaysOpen.cases_steps (steps : Steps engine inside next)
    (staysOpen : StaysOpen engine block inside configuration) :
    configuration = inside ∨ block <:+ next.stack ∧ StaysOpen engine block next configuration := by
  rcases staysOpen.cases_head with same | ⟨second, ⟨first, present⟩, rest⟩
  · exact .inl same.symm
  · obtain rfl := first.deterministic steps
    exact .inr ⟨present, rest⟩

theorem Configuration.Steps.succeeds {fault : Fault} (steps : Steps engine inside next) :
    ¬ inside.Ends engine (some fault) := by
  intro ends
  obtain ⟨stepped⟩ := steps
  cases ends with
  | failed failed =>
      rw [failed] at stepped
      cases stepped

namespace Configuration.RunsThrough

/-- A block that the next step leaves runs through. -/
theorem of_leaves (steps : Steps engine inside next) (noBreak : ¬ inside.IsAtBreak)
    (left : ¬ block <:+ next.stack) : RunsThrough engine block inside where
  succeeds configuration fault staysOpen := by
    rcases StaysOpen.cases_steps steps staysOpen with rfl | ⟨present, -⟩
    · exact steps.succeeds
    · exact absurd present left
  stays configuration staysOpen _ := by
    rcases StaysOpen.cases_steps steps staysOpen with rfl | ⟨present, -⟩
    · exact noBreak
    · exact absurd present left

/-- A block runs through, if the next step does not break out of it and it runs through behind. -/
theorem of_steps (steps : Steps engine inside next) (noBreak : ¬ inside.IsAtBreak)
    (runs : RunsThrough engine block next) : RunsThrough engine block inside where
  succeeds configuration fault staysOpen := by
    rcases StaysOpen.cases_steps steps staysOpen with rfl | ⟨-, rest⟩
    · exact steps.succeeds
    · exact runs.succeeds configuration fault rest
  stays configuration staysOpen direct := by
    rcases StaysOpen.cases_steps steps staysOpen with rfl | ⟨-, rest⟩
    · exact noBreak
    · exact runs.stays configuration rest direct

end Configuration.RunsThrough

end RunningThrough

/-! ### Steps that are no `break` -/

section Handling

variable {context : Context} {store : Store} {sink depth : Nat} {progress : Progress}

/-- Only `break` asks to leave a block. -/
theorem Invocation.operation_of_leaveBlock (invocation : Invocation) (workspace : Workspace)
    {operation : TagOperation} {outcome : Outcome}
    (performed : invocation.perform workspace operation = .ok outcome)
    (asks : outcome.request = .leaveBlock) : operation = .leaveBlock := by
  by_cases alternates : ∃ blankIsEmpty, operation = .alternative blankIsEmpty
  · obtain ⟨blankIsEmpty, rfl⟩ := alternates
    exact absurd asks (invocation.yields_alternative workspace blankIsEmpty outcome performed).2
  · by_cases breaks : operation = .leaveBlock
    · exact breaks
    · have plain := invocation.plain_perform workspace breaks
        (fun blank same => alternates ⟨blank, same⟩) outcome performed
      rw [Outcome.Plain, asks] at plain
      cases plain

theorem outerOf_suffix (repeaters : List Repeater) (tasks : List Task) :
    outerOf repeaters tasks <:+ repeaters := by
  unfold outerOf
  split
  · exact List.tail_suffix _
  · exact List.suffix_refl _

namespace Context

/-- The stack is cut only for a `break` for which nothing is left to be made. -/
theorem break_of_resume {task : Task} (resumed : context.resume store sink task = .ok progress)
    (leaves : progress.move = .leaveBlock) :
    ∃ call, task = .callTag call ∧ call.operation = .leaveBlock ∧
      (store.settlePlan call.plan).2.2 = none := by
  cases task with
  | takeTurn =>
      cases resumed
      unfold takeTurn at leaves
      split at leaves
      · cases leaves
      · split at leaves <;> cases leaves
  | callTag call =>
      refine ⟨call, rfl, ?_⟩
      simp only [resume, resumeTag] at resumed
      split at resumed
      · cases resumed
        cases leaves
      · next settledStore done settled =>
          obtain ⟨outcome, performed, rfl⟩ := map_eq_ok.mp resumed
          refine ⟨?_, by rw [settled]⟩
          refine Invocation.operation_of_leaveBlock _ _ performed ?_
          cases request : outcome.request with
          | leaveBlock => rfl
          | nothing | run code | attempt trial fallback blankIsEmpty | compare comparison body =>
              simp only [Store.follow, Store.grant, request] at leaves
              cases leaves
  | callSubroutine call =>
      cases resumed
      unfold resumeSubroutine at leaves
      split at leaves <;> cases leaves
  | findMatches regex code | replaceMatches replacement =>
      cases resumed
      unfold replaceNext at leaves
      split at leaves <;> cases leaves
  | runGenerated =>
      obtain ⟨code, -, rfl⟩ := map_eq_ok.mp resumed
      cases leaves
  | settleArithmetic isStatement position =>
      obtain ⟨workspace, -, rfl⟩ := map_eq_ok.mp resumed
      cases leaves
  | defineGenerated name parameters =>
      obtain ⟨workspace, -, rfl⟩ := map_eq_ok.mp resumed
      cases leaves

theorem move_begin (construct : Construct) :
    (context.begin store depth construct).move ≠ .leaveBlock := by
  cases construct <;> exact nofun

theorem move_complete_ne (context : Context) (store : Store) (sink : Nat)
    (completion : Completion) :
    (context.complete store sink completion).move ≠ .leaveBlock := by
  rcases move_complete context store sink completion with move | ⟨fallback, -, move⟩ <;>
  · rw [move]
    exact nofun

end Context

end Handling

section Stepping

variable {engine : Engine} {store : Store} {top : Activation} {beneath : List Activation}
  {progress : Progress} {reached : Configuration}

/-- What remains behind a step that is no `break`. -/
structure Configuration.Remains (store : Store) (top : Activation) (beneath : List Activation)
    (reached : Configuration) : Prop where
  repeaters : top.takesTurns = false → store.repeaters <:+ reached.store.repeaters
  height : beneath.length ≤ reached.stack.length
  unfinished : ¬ top.IsAtEnd → beneath.length < reached.stack.length

theorem Configuration.settle_enters (enters : progress.move ≠ .leaveBlock)
    (settled : settle engine top beneath progress = .ok reached) :
    reached.store.repeaters = progress.store.repeaters ∧
      beneath.length < reached.stack.length := by
  unfold settle at settled
  cases move : progress.move with
  | enter entries =>
      rw [move] at settled
      obtain ⟨above, stack, -, repeaters⟩ := stack_enterAll settled
      refine ⟨repeaters, ?_⟩
      rw [stack, List.length_append, List.length_cons]
      omega
  | leaveBlock => exact absurd move enters

theorem Configuration.remains_leave (idle : top.tasks = []) (ended : top.nextToken? = none)
    (left : leave engine store top beneath = .ok reached) :
    Remains store top beneath reached := by
  have repeaters : (release store top).repeaters = store.repeaters := repeaters_release store top
  have atEnd : top.IsAtEnd := ⟨idle, ended⟩
  unfold leave at left
  split at left
  · obtain ⟨same, height⟩ := settle_enters (Context.move_complete_ne _ _ _ _) left
    rw [repeaters_complete, repeaters] at same
    exact ⟨fun _ => same ▸ List.suffix_refl _, height, fun busy => absurd atEnd busy⟩
  · cases left
    exact ⟨fun _ => repeaters ▸ List.suffix_refl _, Nat.le_refl _, fun busy => absurd atEnd busy⟩

theorem Configuration.remains_step (short : top.tasks.length ≤ 1)
    (noBreak : ¬ IsAtBreak ⟨store, top :: beneath⟩)
    (stepped : step engine store top beneath = .ok reached) :
    Remains store top beneath reached := by
  cases stepped_of_step short stepped with
  | resume task progress tasks resumed settled =>
      have enters : progress.move ≠ .leaveBlock := by
        intro leaves
        obtain ⟨call, rfl, operation, made⟩ := Context.break_of_resume resumed leaves
        exact noBreak ⟨top, beneath, call, rfl, tasks, operation, made⟩
      obtain ⟨same, height⟩ := settle_enters enters settled
      refine ⟨fun noTurn => ?_, Nat.le_of_lt height, fun _ => height⟩
      have plain : task.takesTurn = false := by
        simpa [Activation.takesTurns, tasks] using noTurn
      have keeps := (Context.lowers_resume (fun taking => by simp [plain] at taking) resumed).keeps
      have outer : outerOf store.repeaters [task] = store.repeaters := by simp [outerOf, plain]
      rw [same, ← outer, ← keeps]
      exact outerOf_suffix _ _
  | leave idle ended left => exact remains_leave idle ended left
  | read token stop workspace construct idle next stopped reading settled =>
      obtain ⟨same, height⟩ := settle_enters (Context.move_begin construct) settled
      refine ⟨fun _ => ?_, Nat.le_of_lt height, fun _ => height⟩
      have keeps : outerOf _ ((top.context engine store).begin (store.absorb top.sink workspace)
          beneath.length construct).task?.toList = store.repeaters := Context.keeps_begin construct
      rw [same, ← keeps]
      exact outerOf_suffix _ _

end Stepping

/-! ### Steps within a turn -/

section Running

variable {engine : Engine} {store : Store} {top base later : Activation}
  {beneath lower above block waiting : List Activation} {repeaters : List Repeater} {sink : Nat}
  {inside configuration reached : Configuration}

/-- If repeaters lie at the bottom that are as many as the block and those around it need, then
those above them belong to blocks that have been entered in it. -/
theorem WellStacked.inTurn (wellStacked : WellStacked engine configuration)
    (stack : configuration.stack = above ++ block)
    (turns : block.countP Activation.takesTurns = repeaters.length)
    (beneath : repeaters <:+ configuration.store.repeaters) :
    configuration.InTurn block repeaters := by
  obtain ⟨nested, whole⟩ := beneath
  refine ⟨above, nested, stack, whole.symm, ?_⟩
  have length := wellStacked.disciplined.repeaters
  rw [stack, List.countP_append, ← whole, List.length_append] at length
  omega

/-- Outside of nested blocks the repeater of the block is the innermost. -/
theorem Configuration.InTurn.repeaters_eq (inTurn : configuration.InTurn block repeaters)
    (direct : configuration.IsDirectlyIn block) : configuration.store.repeaters = repeaters := by
  obtain ⟨above, nested, stack, whole, length⟩ := inTurn
  obtain ⟨others, stack', resting⟩ := direct
  obtain rfl : above = others := List.append_cancel_right (stack.symm.trans stack')
  have none : above.countP Activation.takesTurns = 0 := by
    simpa [List.countP_eq_zero] using resting
  obtain rfl : nested = [] := List.eq_nil_of_length_eq_zero (length.trans none)
  exact whole

/-- A configuration of a turn that is under way. -/
structure Configuration.During (engine : Engine) (block : List Activation)
    (repeaters : List Repeater) (inside configuration : Configuration) : Prop where
  wellStacked : WellStacked engine configuration
  staysOpen : StaysOpen engine block inside configuration
  inTurn : configuration.InTurn block repeaters

namespace Configuration.During

/-- A step of what lies above the block goes on with the turn, if the block stays open. -/
theorem step (runs : RunsThrough engine block inside)
    (turns : block.countP Activation.takesTurns = repeaters.length)
    (during : During engine block repeaters inside ⟨store, top :: beneath⟩)
    (higher : block <:+ beneath)
    (stepped : Configuration.step engine store top beneath = .ok reached)
    (present : block <:+ reached.stack) : During engine block repeaters inside reached := by
  obtain ⟨wellStacked, staysOpen, above, nested, stack, whole, length⟩ := during
  have short := wellStacked.ordered.tasks top List.mem_cons_self
  have whole : store.repeaters = nested ++ repeaters := whole
  refine ⟨wellStacked.step stepped, staysOpen.tail ⟨⟨stepped⟩, present⟩, ?_⟩
  obtain ⟨_, onBlock⟩ := present
  refine (wellStacked.step stepped).inTurn onBlock.symm turns ?_
  cases nested with
  | cons first nested =>
      -- At most the repeater of a nested block changes.
      have tail : nested ++ repeaters <:+ reached.store.repeaters := by
        have moves := (moves_step short stepped).repeaters
        rwa [Store.surroundings, whole] at moves
      exact (List.suffix_append _ _).trans tail
  | nil =>
      -- No nested block is open, so the step is no `break`, and no turn is taken.
      have resting : ∀ activation ∈ above, activation.takesTurns = false := by
        simpa [List.countP_eq_zero] using length.symm
      have noTurn : top.takesTurns = false := by
        cases above with
        | nil =>
            have size := congrArg List.length stack
            have fewer := higher.length_le
            simp only [List.length_cons, List.nil_append] at size
            omega
        | cons first others =>
            obtain ⟨rfl, -⟩ := List.cons.inj stack
            exact resting top List.mem_cons_self
      have noBreak := runs.stays _ staysOpen ⟨above, stack, resting⟩
      have remains := (remains_step short noBreak stepped).repeaters noTurn
      rwa [whole] at remains

end Configuration.During

/-- A `break` in a nested block leaves what the block lies on. -/
theorem Configuration.length_break (wellStacked : WellStacked engine ⟨store, top :: beneath⟩)
    (atBreak : IsAtBreak ⟨store, top :: beneath⟩) (taking : base.takesTurns = true)
    (present : (base :: lower) <:+ top :: beneath)
    (stepped : step engine store top beneath = .ok reached) :
    lower.length < reached.stack.length := by
  obtain ⟨_, _, call, same, tasks, operation, settled⟩ := atBreak
  obtain ⟨rfl, rfl⟩ := List.cons.inj same
  have turns := (wellStacked.heights_le present).2.2.2
  rw [List.countP_cons_of_pos taking] at turns
  obtain ⟨repeater, outer, repeaters⟩ :=
    List.exists_cons_of_length_pos (Nat.lt_of_lt_of_le (Nat.succ_pos _) turns)
  obtain ⟨stepped', ready⟩ := step_of_break wellStacked tasks operation settled repeaters
  obtain ⟨dropped, first, others, stack, -, resting, left⟩ := ready.leaveBlock_eq repeaters
  rw [stepped] at stepped'
  obtain rfl := Except.ok.inj stepped'
  rw [left]
  -- The activation with the tag takes no turns, so the block lies beneath it.
  have inner : (base :: lower) <:+ top.idle top.elseArmed :: beneath := by
    rcases List.suffix_cons_iff.mp present with same | within
    · obtain ⟨rfl, -⟩ := List.cons.inj same
      simp [Activation.takesTurns, tasks, Task.takesTurn] at taking
    · exact within.trans (List.suffix_cons _ _)
  have kept := suffix_of_idle resting taking (stack ▸ inner)
  exact kept.length_le

/-- A step keeps an activation that is not at its end, unless it is a `break` that leaves a block
beneath. -/
theorem WellStacked.stepsWith (wellStacked : WellStacked engine ⟨store, top :: beneath⟩)
    (stack : top :: beneath = above ++ later :: waiting)
    (unfinished : above = [] → ¬ later.IsAtEnd)
    (inner : IsAtBreak ⟨store, top :: beneath⟩ →
      ∃ activation ∈ above ++ [later], activation.takesTurns = true)
    (stepped : Configuration.step engine store top beneath = .ok reached) :
    StepsWith engine waiting.length ⟨store, top :: beneath⟩ reached := by
  have size := congrArg List.length stack
  simp only [List.length_cons, List.length_append] at size
  have busy : beneath.length = waiting.length → ¬ top.IsAtEnd := by
    intro same
    obtain rfl : above = [] := List.eq_nil_of_length_eq_zero (by omega)
    obtain ⟨rfl, -⟩ := List.cons.inj stack
    exact unfinished rfl
  refine .intro stepped busy ?_
  by_cases atBreak : IsAtBreak ⟨store, top :: beneath⟩
  · obtain ⟨nested, member, taking⟩ := inner atBreak
    obtain ⟨front, behind, split⟩ := List.append_of_mem member
    have present : (nested :: (behind ++ waiting)) <:+ top :: beneath := by
      refine ⟨front, ?_⟩
      calc
        front ++ nested :: (behind ++ waiting) = above ++ [later] ++ waiting := by simp [split]
        _ = top :: beneath := by simp [stack]
    have kept := length_break wellStacked atBreak taking present stepped
    rw [List.length_append] at kept
    omega
  · have remains :=
      remains_step (wellStacked.ordered.tasks top List.mem_cons_self) atBreak stepped
    by_cases same : beneath.length = waiting.length
    · have kept := remains.unfinished (busy same)
      omega
    · have kept := remains.height
      omega

/-! ### Running the pieces of a turn -/

namespace Configuration.During

/-- A piece comes to its end, with other pieces waiting beneath it. -/
theorem exists_atEnd {piece : Activation} (runs : RunsThrough engine block inside)
    (turns : block.countP Activation.takesTurns = repeaters.length)
    (resting : ∀ activation ∈ waiting, activation.takesTurns = false)
    (during : During engine block repeaters inside configuration)
    (stack : configuration.stack = above ++ later :: (waiting ++ block))
    (continues : later.Continues piece) :
    ∃ ended final, ReachesInTurn engine block repeaters (waiting ++ block).length configuration
        ended ∧
      ended.stack = final :: (waiting ++ block) ∧ final.Continues piece ∧ final.IsAtEnd ∧
      During engine block repeaters inside ended := by
  obtain ⟨last, fault?, reaches, ends⟩ :
      ∃ last fault?, Reaches engine configuration last ∧ last.Ends engine fault? := by
    obtain ⟨last, reaches, ends, -⟩ := runStack_reaches during.wellStacked
    exact ⟨last, _, reaches, ends⟩
  induction reaches using Relation.ReflTransGen.head_induction_on generalizing above later with
  | refl =>
      cases ends with
      | finished => simp at stack
      | failed failed => exact (runs.succeeds _ _ during.staysOpen (.failed failed)).elim
  | @head first next steps _ inductionHypothesis =>
      obtain @⟨store, top, beneath, next, stepped⟩ := steps
      by_cases finished : above = [] ∧ later.IsAtEnd
      · obtain ⟨rfl, atEnd⟩ := finished
        exact ⟨_, later, .refl, stack, continues, atEnd, during⟩
      · have stack : top :: beneath = above ++ later :: (waiting ++ block) := stack
        have inner (atBreak : IsAtBreak ⟨store, top :: beneath⟩) :
            ∃ activation ∈ above ++ [later], activation.takesTurns = true := by
          by_cases nested : ∃ activation ∈ above ++ [later], activation.takesTurns = true
          · exact nested
          · refine absurd atBreak
              (runs.stays _ during.staysOpen ⟨above ++ [later] ++ waiting, ?_, ?_⟩)
            · simp [stack]
            · intro activation member
              rcases List.mem_append.mp member with lies | waits
              · cases taking : activation.takesTurns with
                | false => rfl
                | true => exact absurd ⟨activation, lies, taking⟩ nested
              · exact resting activation waits
        have stepsWith := during.wellStacked.stepsWith stack (fun none atEnd =>
          finished ⟨none, atEnd⟩) inner stepped
        have covers : Covers piece (waiting ++ block) store.sinks ⟨store, top :: beneath⟩ :=
          ⟨⟨above, later, stack, continues⟩, fun _ _ => rfl⟩
        obtain ⟨above', later', stack', continues'⟩ :=
          (covers.stepsWith during.wellStacked stepsWith).stack
        have higher : block <:+ beneath := by
          have lies : (later :: (waiting ++ block)) <:+ top :: beneath := ⟨above, stack.symm⟩
          exact (List.suffix_append _ _).trans (suffix_of_cons lies)
        have present : block <:+ next.stack := by
          refine ⟨above' ++ later' :: waiting, ?_⟩
          simp [stack']
        have during' := during.step runs turns higher stepped present
        obtain ⟨ended, final, path, rest⟩ := inductionHypothesis during' stack' continues'
        exact ⟨ended, final, .head ⟨stepsWith, during'.inTurn⟩ path, rest⟩

/-- The pieces of a turn run in their order, and then the block is on top again. -/
theorem exists_runsInOrder {codes : List Code} (runs : RunsThrough engine block inside)
    (turns : block.countP Activation.takesTurns = repeaters.length)
    (during : During engine block repeaters inside configuration)
    (stack : configuration.stack = entered codes sink ++ block) :
    ∃ last, RunsInOrder engine block repeaters sink codes configuration last ∧
      last.stack = block ∧ During engine block repeaters inside last := by
  induction codes generalizing configuration with
  | nil => exact ⟨configuration, .done stack, stack, during⟩
  | cons code codes inductionHypothesis =>
      have resting : ∀ activation ∈ entered codes sink, activation.takesTurns = false := by
        simp [entered, Activation.takesTurns]
      have onTop : configuration.stack =
          [] ++ .enter (.shared code) sink :: (entered codes sink ++ block) := stack
      obtain ⟨⟨store, _⟩, final, path, rfl, continues, atEnd, during'⟩ :=
        during.exists_atEnd runs turns resting onTop ⟨rfl, rfl, rfl, rfl⟩
      obtain ⟨left⟩ : Steps engine ⟨store, final :: (entered codes sink ++ block)⟩
          ⟨store, entered codes sink ++ block⟩ := steps_leave_shared atEnd continues
      have behind := during'.step runs turns (List.suffix_append _ _) left (List.suffix_append _ _)
      obtain ⟨last, inOrder, rest⟩ := inductionHypothesis behind rfl
      exact ⟨last, .piece stack path rfl continues atEnd ⟨left⟩ behind.inTurn inOrder, rest⟩

end Configuration.During

end Running

end SeededText.Machine
