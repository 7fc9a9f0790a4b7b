import SeededText.Machine.Invariance

/-!
Contract: every run ends.

Each place of the stack has a weight, which counts what is left for the activation there: trials
weigh more than other code, then the tokens that are left count, then what is left of the task. For
an activation that takes turns these are the turns that are left to its repeater. A step makes the
lowest place that changes lighter, and the stack never gets higher than the settings allow. So the
weights from the bottom upwards, compared like the words of a dictionary, go down with each step.

Owns: weights, the rank of a configuration, that steps lower it.
Does not own: the run itself (`SeededText.Machine.Run`).
-/

namespace SeededText.Machine

/-- What is left at one place of the stack: whether there is an activation, tokens, stage and work
of its task. Weights are compared from the left. -/
abbrev Weight := Nat × Nat × Nat × Nat

/-- Weight of a place above the stack. -/
def Weight.absent : Weight := (0, 0, 0, 0)

/-- What is left of a task is compared by its stage and then by its work. -/
abbrev TaskLower : Nat × Nat → Nat × Nat → Prop :=
  Prod.Lex (· < ·) (· < ·)

abbrev Weight.Lower : Weight → Weight → Prop :=
  Prod.Lex (· < ·) (Prod.Lex (· < ·) TaskLower)

theorem Weight.wellFounded_lower : WellFounded Weight.Lower :=
  let numbers : WellFoundedRelation Nat := Nat.lt_wfRel
  (Prod.lex numbers (Prod.lex numbers (Prod.lex numbers numbers))).wf

/-- Weights of the lowest places of a stack. -/
def Rank : Nat → Type
  | 0 => Unit
  | height + 1 => Weight × Rank height

/-- Ranks are compared from the lowest place upwards. -/
def Rank.Lower : (height : Nat) → Rank height → Rank height → Prop
  | 0 => emptyRelation
  | height + 1 => Prod.Lex Weight.Lower (Rank.Lower height)

theorem Rank.wellFounded_lower : (height : Nat) → WellFounded (Rank.Lower height)
  | 0 => emptyWf.wf
  | height + 1 => (Prod.lex ⟨_, Weight.wellFounded_lower⟩ ⟨_, wellFounded_lower height⟩).wf

/-- The first weights of a list, filled up with weights of absent places. -/
def Rank.ofWeights : (height : Nat) → List Weight → Rank height
  | 0, _ => ()
  | height + 1, [] => (.absent, ofWeights height [])
  | height + 1, weight :: weights => (weight, ofWeights height weights)

namespace Rank

/-- The lowest place that differs decides. -/
theorem lower_ofWeights {height : Nat} {below : List Weight} {lighter heavier : Weight}
    (above above' : List Weight) (inside : below.length < height)
    (lower : lighter.Lower heavier) :
    Lower height (ofWeights height (below ++ lighter :: above))
      (ofWeights height (below ++ heavier :: above')) := by
  induction below generalizing height with
  | nil =>
      cases height with
      | zero => simp at inside
      | succ height => exact Prod.Lex.left _ _ lower
  | cons weight below inductionHypothesis =>
      cases height with
      | zero => simp at inside
      | succ height =>
          exact Prod.Lex.right _ (inductionHypothesis (by simpa using inside))

theorem ofWeights_append_absent (height : Nat) (weights : List Weight) :
    ofWeights height (weights ++ [.absent]) = ofWeights height weights := by
  induction weights generalizing height with
  | nil =>
      cases height with
      | zero => rfl
      | succ height => cases height <;> rfl
  | cons weight weights inductionHypothesis =>
      cases height with
      | zero => rfl
      | succ height => exact congrArg (Prod.mk weight) (inductionHypothesis height)

/-- A stack without its upper places ranks lower. -/
theorem lower_ofWeights_of_cut {height : Nat} {below : List Weight} {heavier : Weight}
    (above : List Weight) (inside : below.length < height) (present : 0 < heavier.1) :
    Lower height (ofWeights height below) (ofWeights height (below ++ heavier :: above)) := by
  rw [← ofWeights_append_absent]
  exact lower_ofWeights [] above inside (Prod.Lex.left _ _ present)

end Rank

/-! ### Weights of activations -/

/-- How many turns are left to the innermost repeater. -/
def turnsLeft : List Repeater → Nat
  | [] => 0
  | repeater :: _ => repeater.remaining

/-- What is left of a task: a stage, and the work within the stage. -/
def Task.weight (repeaters : List Repeater) : Task → Nat × Nat
  | .takeTurn => (0, turnsLeft repeaters + 1)
  | .callTag call => (0, call.plan.waiting.length + 1)
  | .callSubroutine call => (0, call.plan.waiting.length + 1)
  | .findMatches _ _ => (1, 1)
  | .replaceMatches replacement => (0, replacement.unread.length + 1)
  | .runGenerated => (0, 1)
  | .settleArithmetic _ _ => (0, 1)
  | .defineGenerated _ _ => (0, 1)

/-- What is left of the first task, nothing if there is none. -/
def tasksWeight (repeaters : List Repeater) : List Task → Nat × Nat
  | [] => (0, 0)
  | task :: _ => task.weight repeaters

/-- The repeaters without that of an activation with the given tasks. -/
def outerOf (repeaters : List Repeater) (tasks : List Task) : List Repeater :=
  if tasks.any Task.takesTurn then repeaters.tail else repeaters

/-- Trials weigh more than other code, because other code may take their place. -/
def completionWeight : Option Completion → Nat
  | some (.settleTrial _ _) => 2
  | _ => 1

def Activation.weight (repeaters : List Repeater) (activation : Activation) : Weight :=
  (completionWeight activation.completion?, activation.code.span.stop - activation.cursor,
    tasksWeight repeaters activation.tasks)

/-- Weights of a stack from the bottom upwards. -/
def stackWeights (repeaters : List Repeater) : List Activation → List Weight
  | [] => []
  | top :: beneath =>
      stackWeights (outerOf repeaters top.tasks) beneath ++ [top.weight repeaters]

def Configuration.rank (height : Nat) (configuration : Configuration) : Rank height :=
  .ofWeights height (stackWeights configuration.store.repeaters configuration.stack)

section Weights

variable {repeaters : List Repeater} {above beneath stack : List Activation}

theorem Activation.weight_pos (activation : Activation) :
    0 < (activation.weight repeaters).1 := by
  simp only [weight, completionWeight]
  split <;> omega

theorem outerOf_idle {activation : Activation} (idle : activation.takesTurns = false) :
    outerOf repeaters activation.tasks = repeaters := by
  simp only [Activation.takesTurns] at idle
  simp [outerOf, idle]

theorem length_stackWeights : (stackWeights repeaters stack).length = stack.length := by
  induction stack generalizing repeaters with
  | nil => rfl
  | cons top beneath inductionHypothesis => simp [stackWeights, inductionHypothesis]

theorem weight_pos_of_mem {weight : Weight} (member : weight ∈ stackWeights repeaters stack) :
    0 < weight.1 := by
  induction stack generalizing repeaters with
  | nil => simp [stackWeights] at member
  | cons top beneath inductionHypothesis =>
      rcases List.mem_append.mp member with lower | same
      · exact inductionHypothesis lower
      · rw [List.mem_singleton.mp same]
        exact top.weight_pos

/-- Activations that take no turns leave the weights beneath them as they are. -/
theorem stackWeights_append (idle : ∀ activation ∈ above, activation.takesTurns = false) :
    stackWeights repeaters (above ++ beneath) =
      stackWeights repeaters beneath ++ stackWeights repeaters above := by
  induction above with
  | nil => simp [stackWeights]
  | cons top above inductionHypothesis =>
      have lower := inductionHypothesis fun activation member =>
        idle activation (List.mem_cons_of_mem top member)
      simp only [List.cons_append, stackWeights, outerOf_idle (idle top List.mem_cons_self), lower,
        List.append_assoc]

end Weights

/-! ### Tasks -/

/-- A task keeps the repeaters of the activations beneath, and leaves less to do. -/
structure Progress.Lowers (repeaters : List Repeater) (task : Task) (progress : Progress) :
    Prop where
  keeps : outerOf progress.store.repeaters progress.task?.toList = outerOf repeaters [task]
  lower : TaskLower (tasksWeight progress.store.repeaters progress.task?.toList)
    (task.weight repeaters)

section Handling

variable {context : Context} {store : Store} {sink depth : Nat} {progress : Progress}

theorem tasksWeight_nil_lower (repeaters : List Repeater) (task : Task) (others : List Repeater) :
    TaskLower (tasksWeight others []) (task.weight repeaters) := by
  cases task <;>
    first
      | exact Prod.Lex.right _ (Nat.succ_pos _)
      | exact Prod.Lex.left _ _ Nat.one_pos

/-- A task that is done and takes no turns keeps all repeaters. -/
theorem Progress.Lowers.done {task : Task} {reached : Store} {entries : List Entry}
    {elseArmed : Bool} (plain : task.takesTurn = false)
    (same : reached.repeaters = store.repeaters) :
    Progress.Lowers store.repeaters task ⟨reached, .enter entries, elseArmed, none⟩ where
  keeps := by simp [outerOf, plain, same]
  lower := tasksWeight_nil_lower _ _ _

/-- A task that goes on and takes no turns keeps all repeaters. -/
theorem Progress.Lowers.goOn {task next : Task} {reached : Store} {entries : List Entry}
    {elseArmed : Bool} (plain : task.takesTurn = false) (plainNext : next.takesTurn = false)
    (same : reached.repeaters = store.repeaters)
    (lower : TaskLower (next.weight store.repeaters) (task.weight store.repeaters)) :
    Progress.Lowers store.repeaters task ⟨reached, .enter entries, elseArmed, some next⟩ where
  keeps := by simp [outerOf, plain, plainNext, same]
  lower := by
    show TaskLower (next.weight reached.repeaters) _
    rw [same]
    exact lower

theorem Store.repeaters_grant (store : Store) (request : Request) :
    (store.grant request).1.repeaters = store.repeaters := by
  cases request <;> rfl

namespace Context

/-- A construct keeps the repeaters of the activations beneath. -/
theorem keeps_begin (construct : Construct) :
    outerOf (context.begin store depth construct).store.repeaters
      (context.begin store depth construct).task?.toList = store.repeaters := by
  cases construct <;> rfl

theorem lowers_takeTurn (inBlock : store.repeaters ≠ []) :
    (context.takeTurn store sink).Lowers store.repeaters .takeTurn := by
  unfold takeTurn
  split
  · next none => exact absurd none inBlock
  · next repeater outer some =>
      split
      · next advanced turn =>
          refine ⟨by rw [some]; rfl, Prod.Lex.right _ ?_⟩
          rw [some]
          exact Nat.succ_lt_succ (Repeater.remaining_advance turn)
      · refine ⟨by rw [some]; rfl, tasksWeight_nil_lower _ _ _⟩

theorem length_settlePlan {settledStore : Store} {plan : ArgumentPlan}
    {done : List Argument} {code : Code} {waiting : List PlannedArgument}
    (settled : store.settlePlan plan = (settledStore, done, some (code, waiting))) :
    waiting.length < plan.waiting.length := by
  unfold Store.settlePlan at settled
  split at settled <;>
    exact ArgumentPlan.length_settle (congrArg Prod.snd settled)

theorem repeaters_settlePlan (store : Store) (plan : ArgumentPlan) :
    (store.settlePlan plan).1.repeaters = store.repeaters :=
  (congrArg Store.repeaters (store.settlePlan_eq plan)).trans rfl

theorem lowers_resumeTag {call : TagCall}
    (resumed : context.resumeTag store sink call = .ok progress) :
    progress.Lowers store.repeaters (.callTag call) := by
  have same := repeaters_settlePlan store call.plan
  unfold resumeTag at resumed
  split at resumed
  · next settled =>
      rw [settled] at same
      cases resumed
      exact .goOn rfl rfl same (Prod.Lex.right _ (Nat.succ_lt_succ (length_settlePlan settled)))
  · next settledStore done settled =>
      rw [settled] at same
      obtain ⟨outcome, performed, rfl⟩ := map_eq_ok.mp resumed
      exact ⟨(Store.repeaters_grant _ outcome.request).trans same, tasksWeight_nil_lower _ _ _⟩

theorem lowers_resumeSubroutine (call : SubroutineCall) :
    (context.resumeSubroutine store call).Lowers store.repeaters (.callSubroutine call) := by
  have same := repeaters_settlePlan store call.plan
  unfold resumeSubroutine
  split
  · next settled =>
      rw [settled] at same
      exact .goOn rfl rfl same (Prod.Lex.right _ (Nat.succ_lt_succ (length_settlePlan settled)))
  · next settled =>
      rw [settled] at same
      exact .done rfl same

/-- Each match that is left weighs less than what comes before it. -/
theorem lowers_replaceNext {task : Task} (replacement : Replacement) (reached : Store)
    (plain : task.takesTurn = false) (same : reached.repeaters = store.repeaters)
    (heavy : ∀ unread < replacement.unread.length,
      TaskLower (0, unread + 1) (task.weight store.repeaters)) :
    (context.replaceNext reached sink replacement).Lowers store.repeaters task := by
  unfold replaceNext
  split
  · exact .done plain same
  · next unread =>
      refine .goOn plain rfl same (heavy _ ?_)
      rw [unread]
      exact Nat.lt_succ_self _

/-- Going on with a task leaves less to do. -/
theorem lowers_resume {task : Task} (inBlock : task.takesTurn → store.repeaters ≠ [])
    (resumed : context.resume store sink task = .ok progress) :
    progress.Lowers store.repeaters task := by
  cases task with
  | takeTurn =>
      cases resumed
      exact lowers_takeTurn (inBlock rfl)
  | callTag call => exact lowers_resumeTag resumed
  | callSubroutine call =>
      cases resumed
      exact lowers_resumeSubroutine call
  | findMatches regex code =>
      cases resumed
      exact lowers_replaceNext _ _ rfl rfl fun _ _ => Prod.Lex.left _ _ Nat.one_pos
  | replaceMatches replacement =>
      cases resumed
      exact lowers_replaceNext _ _ rfl rfl fun _ fewer =>
        Prod.Lex.right _ (Nat.succ_lt_succ fewer)
  | runGenerated =>
      obtain ⟨code, -, rfl⟩ := map_eq_ok.mp resumed
      exact .done rfl rfl
  | settleArithmetic isStatement position =>
      obtain ⟨workspace, -, rfl⟩ := map_eq_ok.mp resumed
      exact .done rfl rfl
  | defineGenerated name parameters =>
      obtain ⟨workspace, -, rfl⟩ := map_eq_ok.mp resumed
      exact .done rfl rfl

end Context

end Handling

/-! ### Steps -/

namespace Configuration

section Stepping

variable {engine : Engine} {store : Store} {top : Activation} {beneath : List Activation}
  {configuration reached : Configuration} {entries : List Entry} {height : Nat}

theorem enterAll_singleton (entry : Entry) :
    enterAll engine [entry] configuration = configuration.enter engine entry := by
  simp only [enterAll]
  cases configuration.enter engine entry <;> rfl

/-- Entering code leaves what lies beneath as it was. -/
theorem stack_enterAll (entered : enterAll engine entries ⟨store, top :: beneath⟩ = .ok reached) :
    ∃ above, reached.stack = above ++ top :: beneath ∧
      (∀ activation ∈ above, activation.takesTurns = false) ∧
      reached.store.repeaters = store.repeaters := by
  induction entries generalizing store top beneath with
  | nil =>
      cases entered
      exact ⟨[], rfl, by simp, rfl⟩
  | cons entry entries inductionHypothesis =>
      obtain ⟨higher, first, entered⟩ := bind_eq_ok.mp entered
      obtain ⟨-, rfl⟩ := enter_ok first
      obtain ⟨above, stack, idle, repeaters⟩ := inductionHypothesis entered
      refine ⟨above ++ [.enter entry (store.provide entry top.sink).2], ?_, ?_, ?_⟩
      · rw [stack, List.append_assoc]
        rfl
      · intro activation member
        rcases List.mem_append.mp member with inside | same
        · exact idle activation inside
        · rw [List.mem_singleton.mp same]
          rfl
      · rw [repeaters, Store.repeaters_provide]

/-- The weights with something above rank higher. -/
theorem lower_of_above {below above : List Weight} (inside : below.length < height)
    (higher : above ≠ []) (present : ∀ weight ∈ above, 0 < weight.1) :
    Rank.Lower height (Rank.ofWeights height below) (Rank.ofWeights height (below ++ above)) := by
  cases above with
  | nil => exact absurd rfl higher
  | cons lowest others =>
      exact Rank.lower_ofWeights_of_cut others inside (present lowest List.mem_cons_self)

/-- Finishing a repeater makes the activation that takes its turns no heavier. -/
theorem weights_finish {base : Activation} (lower : List Activation) (repeater : Repeater)
    (outer : List Repeater) (tasks : base.tasks = [.takeTurn]) :
    stackWeights (repeater.finish :: outer) (base :: lower) =
        stackWeights (repeater :: outer) (base :: lower) ∨
      ∃ lighter heavier : Weight, lighter.Lower heavier ∧
        stackWeights (repeater.finish :: outer) (base :: lower) =
          stackWeights outer lower ++ [lighter] ∧
        stackWeights (repeater :: outer) (base :: lower) =
          stackWeights outer lower ++ [heavier] := by
  have weights (first : Repeater) : stackWeights (first :: outer) (base :: lower) =
      stackWeights outer lower ++ [base.weight (first :: outer)] := by
    simp [stackWeights, outerOf, tasks, Task.takesTurn]
  rcases Nat.eq_zero_or_pos repeater.remaining with none | some
  · left
    simp [weights, Activation.weight, tasks, tasksWeight, Task.weight, turnsLeft,
      Repeater.remaining_finish, none]
  · right
    refine ⟨_, _, ?_, weights _, weights _⟩
    simp only [Activation.weight, tasks, tasksWeight, Task.weight, turnsLeft,
      Repeater.remaining_finish]
    exact Prod.Lex.right _ (Prod.Lex.right _ (Prod.Lex.right _ (Nat.succ_lt_succ some)))

/-- Leaving a block lowers the rank, because the activation that leaves it is dropped. -/
theorem lower_leaveBlock {repeater : Repeater} {outer : List Repeater} {base : Activation}
    {lower : List Activation} {above : List Weight}
    (inside : (base :: lower).length < height) (tasks : base.tasks = [.takeTurn])
    (higher : above ≠ []) (present : ∀ weight ∈ above, 0 < weight.1) :
    Rank.Lower height
      (Rank.ofWeights height (stackWeights (repeater.finish :: outer) (base :: lower)))
      (Rank.ofWeights height (stackWeights (repeater :: outer) (base :: lower) ++ above)) := by
  rcases weights_finish lower repeater outer tasks with
    same | ⟨lighter, heavier, lighter_lower, finished, before⟩
  -- If no turns were left, the rank is lower only by the activations that are dropped.
  · rw [same]
    exact lower_of_above (by simpa [length_stackWeights] using inside) higher present
  · rw [finished, before, List.append_assoc, List.singleton_append]
    refine Rank.lower_ofWeights [] above ?_ lighter_lower
    simp only [length_stackWeights, List.length_cons] at inside ⊢
    omega

/-- If what is left for the activation on top has become lighter, progress lowers the rank. -/
theorem lower_settle {progress : Progress} {changed : Activation}
    (inside : beneath.length < height)
    (ready : Ready progress.store { changed with elseArmed := progress.elseArmed } beneath
      progress.move.entries)
    (ends : progress.move = .leaveBlock → changed.tasks = [])
    (keeps : outerOf progress.store.repeaters changed.tasks = outerOf store.repeaters top.tasks)
    (lower : (changed.weight progress.store.repeaters).Lower (top.weight store.repeaters))
    (settled : settle engine changed beneath progress = .ok reached) :
    Rank.Lower height (reached.rank height) (rank height ⟨store, top :: beneath⟩) := by
  unfold settle at settled
  cases move : progress.move with
  | enter entries =>
      rw [move] at settled
      obtain ⟨above, stack, idle, repeaters⟩ := stack_enterAll settled
      simp only [rank, stack, repeaters, stackWeights_append idle, stackWeights, keeps,
        List.append_assoc, List.singleton_append]
      exact Rank.lower_ofWeights _ _ (by simpa [length_stackWeights] using inside) lower
  | leaveBlock =>
      rw [move] at ready settled
      cases settled
      rw [ends move] at keeps
      have keeps : progress.store.repeaters = outerOf store.repeaters top.tasks := keeps
      cases repeaters : progress.store.repeaters with
      | nil =>
          simp only [leaveBlock, repeaters, rank, stackWeights, ends move, ← keeps]
          refine Rank.lower_ofWeights [] [] (by simpa [length_stackWeights] using inside) ?_
          simpa [Activation.weight, ends move, repeaters] using lower
      | cons repeater outer =>
          obtain ⟨above, base, block, stack, tasks, idle, left⟩ := ready.leaveBlock_eq repeaters
          rw [left]
          cases above with
          | nil =>
              obtain ⟨rfl, -⟩ := List.cons.inj stack
              simp [ends move] at tasks
          | cons first dropped =>
              have below : beneath = dropped ++ base :: block := (List.cons.inj stack).2
              have idle : ∀ activation ∈ dropped, activation.takesTurns = false :=
                fun activation member => idle activation (List.mem_cons_of_mem first member)
              rw [below, List.length_append] at inside
              have before : stackWeights store.repeaters (top :: beneath) =
                  stackWeights (repeater :: outer) (base :: block) ++
                    (stackWeights (repeater :: outer) dropped ++ [top.weight store.repeaters]) := by
                rw [stackWeights, ← keeps, repeaters, below, stackWeights_append idle,
                  List.append_assoc]
              rw [rank, rank, before]
              refine lower_leaveBlock ?_ tasks ?_ ?_
              · omega
              · simp
              · intro weight member
                rcases List.mem_append.mp member with within | same
                · exact weight_pos_of_mem within
                · rw [List.mem_singleton.mp same]
                  exact top.weight_pos

/-- Only a trial enters code when it is done, and that code is no trial. -/
theorem move_complete (context : Context) (store : Store) (sink : Nat) (completion : Completion) :
    (context.complete store sink completion).move = .enter [] ∨
      ∃ fallback, completionWeight (some completion) = 2 ∧
        (context.complete store sink completion).move = .enter [.shared fallback] := by
  cases completion with
  | dropComparison | dropBindings => exact Or.inl rfl
  | settleTrial fallback blankIsEmpty =>
      simp only [Context.complete]
      split
      · exact Or.inr ⟨fallback, rfl, rfl⟩
      · exact Or.inl rfl

theorem repeaters_complete (context : Context) (store : Store) (sink : Nat)
    (completion : Completion) :
    (context.complete store sink completion).store.repeaters = store.repeaters := by
  cases completion with
  | dropComparison | dropBindings => rfl
  | settleTrial fallback blankIsEmpty =>
      simp only [Context.complete]
      split <;> rfl

theorem repeaters_release (store : Store) (top : Activation) :
    (release store top).repeaters = store.repeaters := by
  unfold release
  split <;> rfl

theorem lower_leave (inside : beneath.length < height) (idle : top.tasks = [])
    (left : leave engine store top beneath = .ok reached) :
    Rank.Lower height (reached.rank height) (rank height ⟨store, top :: beneath⟩) := by
  have before : rank height ⟨store, top :: beneath⟩ =
      Rank.ofWeights height
        (stackWeights store.repeaters beneath ++ [top.weight store.repeaters]) := by
    simp [rank, stackWeights, idle, outerOf]
  have shorter : Rank.Lower height (Rank.ofWeights height (stackWeights store.repeaters beneath))
      (rank height ⟨store, top :: beneath⟩) := by
    rw [before]
    refine lower_of_above ?_ (by simp) ?_
    · rwa [length_stackWeights]
    · intro weight member
      rw [List.mem_singleton.mp member]
      exact top.weight_pos
  unfold leave at left
  split at left
  · next completion below others completes =>
      have repeaters := (repeaters_complete (below.context engine (release store top))
        (release store top) below.sink completion).trans (repeaters_release store top)
      rcases move_complete (below.context engine (release store top)) (release store top)
        below.sink completion with move | ⟨fallback, weight, move⟩
      · simp only [settle, shift, move] at left
        cases left
        simp only [rank, repeaters]
        exact shorter
      · simp only [settle, shift, move, enterAll_singleton] at left
        obtain ⟨-, rfl⟩ := enter_ok left
        rw [before, rank, Store.repeaters_provide, repeaters]
        refine Rank.lower_ofWeights [] [] (by rwa [length_stackWeights]) (Prod.Lex.left _ _ ?_)
        rw [completes, weight]
        exact Nat.one_lt_two
  · cases left
    simp only [rank, repeaters_release]
    exact shorter

/-- A step of a run in order lowers the rank. -/
theorem lower_step (wellStacked : WellStacked engine ⟨store, top :: beneath⟩)
    (stepped : step engine store top beneath = .ok reached) :
    Rank.Lower (heightLimit engine) (reached.rank (heightLimit engine))
      (rank (heightLimit engine) ⟨store, top :: beneath⟩) := by
  have ordered := wellStacked.ordered
  have inside : beneath.length < heightLimit engine := wellStacked.height
  cases stepped_of_step (ordered.tasks top List.mem_cons_self) stepped with
  | resume task progress tasks resumed settled =>
      have fits := wellStacked.fits_resume tasks resumed
      have lowers := Context.lowers_resume ?_ resumed
      · refine lower_settle inside (fits.ready_renew ordered top.cursor) ?_ ?_ ?_ settled
        · intro move
          simp [fits.ends move]
        · rw [tasks]
          exact lowers.keeps
        · simp only [Activation.weight, tasks]
          exact Prod.Lex.right _ (Prod.Lex.right _ lowers.lower)
      · intro taking
        have shape := congrArg Shape.repeaters wellStacked.shape
        simp only [Store.shape, shapeOf_cons, Shape.queue, tasks, List.any_cons, taking,
          Bool.true_or, Bool.toNat_true] at shape
        intro none
        simp [none] at shape
  | leave idle ended left => exact lower_leave inside idle left
  | read token stop workspace construct idle next stopped reading settled =>
      have fits := wellStacked.fits_begin idle workspace construct
      refine lower_settle inside (fits.ready_renew ordered stop) ?_ ?_ ?_ settled
      · intro move
        simp [fits.ends move]
      · rw [idle]
        exact Context.keeps_begin construct
      · have ahead := Context.lt_of_constructStop stopped
        have unread : top.cursor < top.code.span.stop := Code.lt_stop_of_tokenAt? next
        refine Prod.Lex.right _ (Prod.Lex.left _ _ ?_)
        show top.code.span.stop - stop < top.code.span.stop - top.cursor
        omega

end Stepping

end Configuration

end SeededText.Machine
