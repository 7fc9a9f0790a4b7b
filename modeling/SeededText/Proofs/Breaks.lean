import SeededText.Proofs.OpenBlocks

/-!
Contract: leaving a block by `break` leaves nothing behind but what has been made.

The tag cuts all stacks to the innermost block and finishes its repeater; in the next step the
activation of the block takes no turn and reads on behind it. Then the store is the one from before
the block was entered, with the memory and the sink of the block as the tag found them. It does not
matter what lies between the tag and the block.

Owns: configurations at a `break`, the two steps behind them.
Does not own: that blocks keep what was there when they were entered
(`SeededText.Proofs.OpenBlocks`).
-/

namespace SeededText.Machine

open SeededText.Machine.Configuration

/-- The activation on top has read a `break`, and nothing is left to be made for the tag. -/
def Configuration.IsAtBreak (configuration : Configuration) : Prop :=
  ∃ top beneath call, configuration.stack = top :: beneath ∧ top.tasks = [.callTag call] ∧
    call.operation = .leaveBlock ∧ (configuration.store.settlePlan call.plan).2.2 = none

/-- The step of a `break` and the one behind it leave the block that `opener` has entered on top of
`lower` and whose brace closes at `close`. -/
structure Configuration.BreaksOff (engine : Engine) (opener : Activation)
    (lower : List Activation) (close : Nat) (outside before broken after : Configuration) :
    Prop where
  breaks : Steps engine before broken
  /-- The next step enters no code: neither items nor what belongs to them are left to run. -/
  goesOn : Steps engine broken after
  /-- The block is the innermost: what lies above its activation takes no turns. -/
  innermost : ∃ above, before.stack = above ++ opener.turning close :: lower ∧
    ∀ activation ∈ above, activation.takesTurns = false
  /-- The repeater of the block is finished, and then gone, and no other. -/
  repeaters : ∃ repeater, before.store.repeaters = repeater :: after.store.repeaters ∧
    broken = ⟨after.store.inBlock lower.length repeater.finish, opener.turning close :: lower⟩
  bases : before.store.bases = ⟨lower.length, outside.store.heights⟩ :: after.store.bases
  /-- The activation of the block is behind it and has nothing more to do, and nothing else has
  changed on the stack. -/
  stack : after.stack = opener.behind close :: lower
  /-- All stacks of the store are those from before the block. -/
  store : after.store =
    outside.store.absorb opener.sink (before.store.workspace opener.sink)
  heights : after.store.heights = outside.store.heights
  /-- What has been written to the sink of the block stays. -/
  written : after.store.sinks[opener.sink]? = before.store.sinks[opener.sink]?
  others : after.store.sinks.size = outside.store.sinks.size ∧
    ∀ index, index ≠ opener.sink →
      after.store.sinks[index]? = outside.store.sinks[index]?

section Breaking

variable {engine : Engine} {pattern : Pattern} {seed : UInt64} {store : Store}
  {top opener : Activation} {beneath lower above : List Activation} {close : Nat}
  {outside before configuration : Configuration}

theorem Invocation.perform_leaveBlock (invocation : Invocation) (workspace : Workspace)
    {repeater : Repeater} (inBlock : invocation.context.scope.repeater? = some repeater) :
    invocation.perform workspace .leaveBlock = .ok (invocation.ask workspace .leaveBlock) := by
  simp only [perform, leaveBlock, Invocation.repeater, require, inBlock]
  rfl

/-- What a `break` asks for, when nothing is left to be made for it. -/
theorem Context.resume_break {context : Context} {sink : Nat} {call : TagCall}
    {repeater : Repeater} (inBlock : context.scope.repeater? = some repeater)
    (operation : call.operation = .leaveBlock)
    (settled : (store.settlePlan call.plan).2.2 = none) :
    context.resume store sink (.callTag call) =
      .ok ⟨(store.settlePlan call.plan).1, .leaveBlock, context.elseArmed, none⟩ := by
  have found : store.settlePlan call.plan =
      ((store.settlePlan call.plan).1, (store.settlePlan call.plan).2.1, none) :=
    Prod.ext rfl (Prod.ext rfl settled)
  simp only [resume, resumeTag]
  rw [found]
  dsimp only
  rw [operation, Invocation.perform_leaveBlock _ _ inBlock]
  simp only [Except.map, Store.follow, Invocation.ask, Store.absorb_workspace]
  rfl

/-- A `break` leaves the innermost block. -/
theorem Configuration.step_of_break {call : TagCall} {repeater : Repeater} {outer : List Repeater}
    (wellStacked : WellStacked engine ⟨store, top :: beneath⟩) (tasks : top.tasks = [.callTag call])
    (operation : call.operation = .leaveBlock)
    (settled : (store.settlePlan call.plan).2.2 = none)
    (repeaters : store.repeaters = repeater :: outer) :
    step engine store top beneath =
        .ok (leaveBlock ⟨{ store with results := [] }, top.idle top.elseArmed :: beneath⟩) ∧
      Ready { store with results := [] } (top.idle top.elseArmed) beneath [] := by
  have inBlock : (top.context engine store).scope.repeater? = some repeater :=
    congrArg List.head? repeaters
  have resumed : (top.context engine store).resume store top.sink (.callTag call) = _ :=
    Context.resume_break inBlock operation settled
  have fits := wellStacked.fits_resume tasks resumed
  have taken : (store.settlePlan call.plan).1 = { store with results := [] } := by
    rw [store.settlePlan_eq, fits.results]
  rw [taken] at resumed fits
  refine ⟨?_, fits.ready_renew wellStacked.ordered top.cursor⟩
  rw [step_of_task tasks, resumed]
  rfl

/-- An activation with nothing to be done is not changed by having nothing to do. -/
theorem Activation.idle_eq (idle : top.tasks = []) : top.idle top.elseArmed = top := by
  cases top
  cases idle
  rfl

/-! ### The innermost block -/

theorem blockBases_append (block : List Activation)
    (idle : ∀ activation ∈ above, activation.takesTurns = false) :
    blockBases (above ++ block) = blockBases block := by
  obtain ⟨comparisons, bindings, matchStack, wide⟩ := shapeOf_append block idle
  rw [← shapeOf_bases, ← shapeOf_bases, wide]

theorem WellStacked.seat (wellStacked : WellStacked engine configuration)
    (stack : configuration.stack = top :: beneath) :
    Seat engine configuration.store top beneath := by
  obtain ⟨ordered, shape, -, height⟩ := wellStacked
  rw [stack] at ordered shape height
  have sinks := congrArg Shape.sinks shape
  exact ⟨sinks.trans (shapeOf_sinks _), ordered.indexed.1.trans sinks.symm, height⟩

/-- An open block with nothing above it that takes turns. -/
structure Configuration.Innermost (engine : Engine) (opener : Activation)
    (lower : List Activation) (close : Nat) (outside configuration : Configuration)
    (above : List Activation) : Prop where
  outsideStacked : WellStacked engine outside
  outsideStack : outside.stack = opener :: lower
  idle : opener.tasks = []
  wellStacked : WellStacked engine configuration
  retains : Retains outside opener lower close configuration
  stack : configuration.stack = above ++ opener.turning close :: lower
  resting : ∀ activation ∈ above, activation.takesTurns = false

namespace Configuration.Innermost

variable {repeater : Repeater} {outer : List Repeater}
  (innermost : Innermost engine opener lower close outside configuration above)

include innermost

theorem bases_eq :
    configuration.store.bases = ⟨lower.length, outside.store.heights⟩ :: outside.store.bases := by
  have turning : (opener.turning close).takesTurns = true := rfl
  have resting : opener.takesTurns = false := by simp [Activation.takesTurns, innermost.idle]
  obtain ⟨heights, -⟩ :=
    innermost.outsideStacked.heights_turning innermost.outsideStack innermost.idle close
  rw [innermost.wellStacked.disciplined.bases, innermost.stack,
    blockBases_append _ innermost.resting, innermost.outsideStacked.disciplined.bases,
    innermost.outsideStack, blockBases, blockBases, heights, resting, turning]
  rfl

theorem outer_eq (repeaters : configuration.store.repeaters = repeater :: outer) :
    outer = outside.store.repeaters := by
  have length := innermost.wellStacked.disciplined.repeaters
  obtain ⟨-, turns⟩ :=
    innermost.outsideStacked.heights_turning innermost.outsideStack innermost.idle close
  have none : above.countP Activation.takesTurns = 0 := by
    simpa [List.countP_eq_zero] using innermost.resting
  rw [innermost.stack, List.countP_append, none, turns, repeaters, List.length_cons] at length
  have beneath : outside.store.repeaters <:+ repeater :: outer :=
    repeaters ▸ innermost.retains.surroundings.repeaters
  rcases List.suffix_cons_iff.mp beneath with same | within
  · have length' := congrArg List.length same
    rw [List.length_cons] at length'
    omega
  · exact (within.eq_of_length (by omega)).symm

/-- Up to that of the block, the sinks are those from before it with what has been made. -/
theorem sinks_eq {index : Nat} (low : index ≤ opener.sink) :
    configuration.store.sinks[index]? =
      (outside.store.absorb opener.sink
        (configuration.store.workspace opener.sink)).sinks[index]? := by
  have seat := innermost.outsideStacked.seat innermost.outsideStack
  have present : (opener.turning close).sink < configuration.store.sinks.size :=
    innermost.wellStacked.sink_lt_size innermost.retains.stack
  have present : opener.sink < configuration.store.sinks.size := present
  rcases Nat.lt_or_eq_of_le low with below | rfl
  · rw [Store.sinks_absorb_of_ne _ _ _ (Nat.ne_of_lt below)]
    exact innermost.retains.sinks index below
  · simp [Store.absorb, Store.workspace, Store.sinkAt, present, seat.inside]

theorem leaveBlock_eq (repeaters : configuration.store.repeaters = repeater :: outer) :
    leaveBlock configuration =
      ⟨(outside.store.absorb opener.sink (configuration.store.workspace opener.sink)).inBlock
        lower.length repeater.finish, opener.turning close :: lower⟩ := by
  have seat : Seat engine outside.store (opener.turning close) lower :=
    (innermost.outsideStacked.seat innermost.outsideStack).renew ⟨rfl, rfl, rfl, rfl⟩
  have sink : opener.sink + 1 = outside.store.sinks.size := seat.sink
  have surroundings := innermost.retains.surroundings
  have results := innermost.outsideStacked.results_eq_nil innermost.outsideStack innermost.idle
  have keeps : (outside.store.inBlock lower.length repeater).Keeps configuration.store := by
    refine ⟨?_, innermost.bases_eq, surroundings.comparisons, surroundings.bindings,
      surroundings.matchStack, ?_⟩
    · rw [repeaters, innermost.outer_eq repeaters]
      rfl
    · show outside.store.results <:+ _
      rw [results]
      exact List.nil_suffix
  have size : configuration.store.sinks.size =
      (above ++ opener.turning close :: lower).countP Activation.ownsSink + 1 :=
    innermost.stack ▸ (congrArg Shape.sinks innermost.wellStacked.shape).trans (shapeOf_sinks _)
  have shows : Frame.Shows
      ⟨opener.turning close :: lower, outside.store.inBlock lower.length repeater, opener.sink⟩
      (configuration.store.workspace opener.sink) configuration.store := by
    refine ⟨rfl, fun index low => innermost.sinks_eq (Nat.le_of_succ_le_succ ?_)⟩
    rw [Nat.succ_eq_add_one, Nat.succ_eq_add_one, sink, seat.size]
    exact Nat.succ_le_succ low
  have left := leaveBlock_inBlock seat keeps size shows
  rw [← innermost.stack] at left
  exact left

/-- The block stays the innermost when the activation on top is done with its task. -/
theorem rests (stack : configuration.stack = top :: beneath) (noTurn : top.takesTurns = false)
    (ready : Ready { configuration.store with results := [] } (top.idle top.elseArmed) beneath []) :
    ∃ dropped, above = top :: dropped ∧
      Innermost engine opener lower close outside
        ⟨{ configuration.store with results := [] }, top.idle top.elseArmed :: beneath⟩
        (top.idle top.elseArmed :: dropped) := by
  have whole := stack.symm.trans innermost.stack
  have height := innermost.wellStacked.height
  rw [stack] at height
  cases above with
  | nil =>
      obtain ⟨rfl, -⟩ := List.cons.inj whole
      cases noTurn
  | cons first dropped =>
      obtain ⟨rfl, rfl⟩ := List.cons.inj whole
      refine ⟨dropped, rfl, innermost.outsideStacked, innermost.outsideStack, innermost.idle,
        ready.wellStacked height, ⟨⟨top.idle top.elseArmed :: dropped, rfl⟩,
          innermost.retains.surroundings, innermost.retains.sinks⟩, rfl, ?_⟩
      intro activation member
      rcases List.mem_cons.mp member with rfl | inside
      · rfl
      · exact innermost.resting activation (List.mem_cons_of_mem _ inside)

end Configuration.Innermost

/-- If there is a repeater, some block is the innermost, and it has been entered in the run. -/
theorem Configuration.exists_innermost (reachable : Reachable engine pattern seed configuration)
    (inBlock : configuration.store.repeaters ≠ []) :
    ∃ outside inside opener lower close above,
      Reachable engine pattern seed outside ∧
      EntersBlock engine opener lower close outside inside ∧
      StaysOpen engine (opener.turning close :: lower) inside configuration ∧
      Innermost engine opener lower close outside configuration above := by
  have wellStacked := Reachable.wellStacked reachable
  have turns : (shapeOf configuration.stack).repeaters ≠ 0 := by
    rw [← wellStacked.shape]
    simpa [Store.shape] using inBlock
  obtain ⟨above, base, lower, stack, taking, resting⟩ := exists_turnTaker turns
  obtain ⟨outside, inside, opener, close, rfl, outsideReachable, enters, stays, retains⟩ :=
    exists_entersBlock reachable taking ⟨above, stack.symm⟩
  exact ⟨outside, inside, opener, lower, close, above, outsideReachable, enters, stays,
    Reachable.wellStacked outsideReachable, enters.stack, enters.idle, wellStacked, retains, stack,
    resting⟩

/-- Throughout a run, `break` leaves the innermost block as it was entered, whatever lies between
the tag and the block. -/
theorem breaksOff_of_reachable (reachable : Reachable engine pattern seed before)
    (atBreak : before.IsAtBreak) (inBlock : before.store.repeaters ≠ []) :
    ∃ outside inside opener lower close broken after,
      Reachable engine pattern seed outside ∧
      EntersBlock engine opener lower close outside inside ∧
      StaysOpen engine (opener.turning close :: lower) inside before ∧
      BreaksOff engine opener lower close outside before broken after := by
  obtain ⟨outside, inside, opener, lower, close, above, outsideReachable, enters, stays,
    innermost⟩ := exists_innermost reachable inBlock
  obtain ⟨repeater, outer, repeaters⟩ := List.exists_cons_of_ne_nil inBlock
  obtain ⟨store, stack⟩ := before
  obtain ⟨top, beneath, call, rfl, tasks, operation, settled⟩ := atBreak
  obtain ⟨stepped, ready⟩ :=
    step_of_break innermost.wellStacked tasks operation settled repeaters
  have noTurn : top.takesTurns = false := by simp [Activation.takesTurns, tasks, Task.takesTurn]
  obtain ⟨dropped, -, rested⟩ := innermost.rests rfl noTurn ready
  have cut := rested.leaveBlock_eq repeaters
  have outer := innermost.outer_eq repeaters
  have behind : (opener.behind close).idle opener.elseArmed = opener.behind close :=
    Activation.idle_eq enters.idle
  let left := outside.store.absorb opener.sink (store.workspace opener.sink)
  refine ⟨outside, inside, opener, lower, close,
    ⟨left.inBlock lower.length repeater.finish, opener.turning close :: lower⟩,
    ⟨left, opener.behind close :: lower⟩, outsideReachable, enters, stays, ?_⟩
  exact {
    breaks := ⟨stepped.trans (congrArg Except.ok cut)⟩
    goesOn := by
      have finished : repeater.finish.advance.1 = false := rfl
      have steps : Steps engine _ ⟨left, (opener.behind close).idle opener.elseArmed :: lower⟩ :=
        steps_outOfBlock finished
      rwa [behind] at steps
    innermost := ⟨above, innermost.stack, innermost.resting⟩
    repeaters := ⟨repeater, outer ▸ repeaters, rfl⟩
    bases := innermost.bases_eq
    stack := rfl
    store := rfl
    heights := rfl
    written := (innermost.sinks_eq (Nat.le_refl _)).symm
    others := ⟨Array.size_setIfInBounds, fun index other =>
      outside.store.sinks_absorb_of_ne _ _ other⟩ }

end Breaking

/-! ### A block with nothing but a break

The only item of the block is a `break`, so the block is left in its first turn. -/

namespace BreakInBlock

open Pattern SeededText.Random

/-- The pattern `\x7b[break]\x7d`. -/
def pattern : Pattern where
  name := "left"
  source := "\x7b[break]\x7d"
  tokens := #[⟨.opens .brace, "\x7b", .start⟩, ⟨.opens .square, "[", .start⟩,
    ⟨.text, "break", .start⟩, ⟨.closes .square, "]", .start⟩, ⟨.closes .brace, "\x7d", .start⟩]

def whole : Activation :=
  .enter (.shared (.whole pattern)) 0

def repeater : Repeater :=
  .ofBlock pattern #[⟨1, 4⟩] .standard

/-- The block is entered, and its first turn comes next. -/
def blockEntered : Configuration :=
  ⟨(Store.fresh .standard 0).inBlock 0 repeater, [whole.turning 4]⟩

/-- The store in the first turn; a number has been drawn to choose the item. -/
def turnStore : Store :=
  { Store.fresh .standard 0 with generator := ((Generator.ofSeed 0).below 1).2 }.inBlock 0
    { repeater with isStarted := true }

def item : Activation :=
  .enter (.shared ⟨pattern, 1, 4⟩) 0

def turnTaken : Configuration :=
  ⟨turnStore, [item, whole.turning 4]⟩

/-- The tag is read. -/
def atBreak : Configuration :=
  ⟨turnStore, [{ item with cursor := 4, tasks := [.callTag ⟨.leaveBlock, .start, .start []⟩] },
    whole.turning 4]⟩

theorem readConstruct_block (context : Context) (workspace : Workspace)
    (same : context.pattern = pattern) (standard : workspace.attributes = .standard) :
    context.readConstruct workspace 0 5 ⟨.opens .brace, "\x7b", .start⟩ =
      .ok ({ workspace with attributes := .standard }, .block repeater) := by
  have items : pattern.itemsBetween 0 4 = #[⟨1, 4⟩] := by
    simp [Pattern.itemsBetween, Pattern.trimSpan, Pattern.skipBlanks, Pattern.split,
      Pattern.splitFrom, Pattern.kindAt?, pattern]
    rfl
  simp only [Context.readConstruct, Context.readBlock, same, items, standard]
  rfl

theorem readConstruct_break (context : Context) (workspace : Workspace)
    (same : context.pattern = pattern) :
    context.readConstruct workspace 1 4 ⟨.opens .square, "[", .start⟩ =
      .ok (workspace, .tag .leaveBlock .start []) := by
  have first : pattern.skipBlanks 2 3 = 2 := by
    rw [Pattern.skipBlanks]
    rfl
  have token : pattern.tokens[2]? = some ⟨.text, "break", .start⟩ := rfl
  have named : isName "break" = true := by decide
  have spans : context.argumentSpans 3 3 "break" = .ok [] := context.argumentSpans_self 3 _
  have resolved : resolveTag "break" 0 = .ok ⟨.leaveBlock, []⟩ := rfl
  simp [Context.readConstruct, Context.readTag, Context.callTag, same, first, token, named, spans,
    resolved, bind, Except.bind, pure, Except.pure]
  rfl

theorem steps_blockEntered :
    Steps .standard (.start .standard pattern 0) blockEntered := by
  have closes : pattern.scopeClose 0 = .ok 4 := by
    simp [Pattern.scopeClose, Pattern.closeFrom, pattern]
  exact .of_read rfl rfl (Context.constructStop_of_close rfl closes)
    (readConstruct_block _ _ rfl rfl) rfl

/-- The store in the block, with any generator: what the numbers are has no part in the turn. -/
def storeWith (generator : Generator) (repeater : Repeater) : Store :=
  { Store.fresh .standard 0 with generator := generator }.inBlock 0 repeater

/-- Of one item, the first is chosen. -/
theorem chooseItem_storeWith (generator : Generator) :
    ((storeWith generator repeater).workspace 0).chooseItem { repeater with isStarted := true } =
      (0, (storeWith (generator.below 1).2 repeater).workspace 0) := by
  have first : (generator.below 1).1 = 0 :=
    Nat.lt_one_iff.mp (Generator.below_lt _ 1 Nat.one_pos)
  have inactive : ((storeWith generator repeater).workspace 0).synchronizers.active? = none := rfl
  simp only [Workspace.chooseItem, inactive]
  exact Prod.ext first rfl

theorem takeTurn_storeWith (generator : Generator) :
    ((whole.turning 4).context .standard (storeWith generator repeater)).takeTurn
      (storeWith generator repeater) 0 =
        ⟨storeWith (generator.below 1).2 { repeater with isStarted := true },
          .enter [.shared ⟨pattern, 1, 4⟩], false, some .takeTurn⟩ := by
  have repeaters : (storeWith generator repeater).repeaters = [repeater] := rfl
  have turn : repeater.advance = (true, { repeater with isStarted := true }) := rfl
  simp only [Context.takeTurn, repeaters, turn, chooseItem_storeWith]
  rfl

theorem steps_turnTaken : Steps .standard blockEntered turnTaken :=
  .of_resume rfl (congrArg Except.ok (takeTurn_storeWith (.ofSeed 0))) rfl

theorem steps_atBreak : Steps .standard turnTaken atBreak := by
  have closes : pattern.scopeClose 1 = .ok 3 := by
    simp [Pattern.scopeClose, Pattern.closeFrom, pattern]
  exact .of_read rfl rfl (Context.constructStop_of_close rfl closes)
    (readConstruct_break _ _ rfl) rfl

theorem reachable_atBreak : Reachable .standard pattern 0 atBreak :=
  .tail (.tail (.single steps_blockEntered) steps_turnTaken) steps_atBreak

/-- The `break` leaves the block. -/
theorem breaksOff_atBreak :
    Reachable .standard pattern 0 atBreak ∧ atBreak.IsAtBreak ∧ atBreak.store.repeaters ≠ [] ∧
      ∃ outside inside opener lower close broken after,
        Reachable .standard pattern 0 outside ∧
        EntersBlock .standard opener lower close outside inside ∧
        StaysOpen .standard (opener.turning close :: lower) inside atBreak ∧
        BreaksOff .standard opener lower close outside atBreak broken after := by
  have tag : atBreak.IsAtBreak := ⟨_, _, _, rfl, rfl, rfl, rfl⟩
  have inBlock : atBreak.store.repeaters ≠ [] := List.cons_ne_nil _ _
  exact ⟨reachable_atBreak, tag, inBlock, breaksOff_of_reachable reachable_atBreak tag inBlock⟩

end BreakInBlock

end SeededText.Machine
