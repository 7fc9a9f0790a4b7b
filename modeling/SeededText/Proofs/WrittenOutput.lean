import Mathlib.Data.List.Forall2
import SeededText.Engine.Run
import SeededText.Proofs.Growth
import SeededText.Proofs.Sinks

/-!
Contract: nothing that a run has written is lost.

Every step leaves the sink of the run with all that it held; neither leaving a block nor taking a
trial over nor code that fails takes anything away. So the output of a run that fails begins,
channel by channel, with what had been written at any time before.

Owns: the sink of the run in a step and in a whole run, the output of a run that fails.
Does not own: what single operations add to a sink (`SeededText.Proofs.Growth`), which sink a step
writes to (`SeededText.Proofs.Sinks`).
-/

namespace SeededText

/-! ### Outputs -/

namespace Output

/-- The output holds what an earlier sink held, which has become `last`: of its channels, those that
are not hidden in the end come first and in the same order, and their texts begin as they did. -/
def KeepsWritten (earlier last : Sink) (targets : Targets) (written : List ChannelOutput) : Prop :=
  ∃ front behind, written = front ++ behind ∧
    List.Forall₂ (fun (channel : Channel × Channel) (output : ChannelOutput) =>
        output.name = channel.1.name ∧
          (channel.1.render targets).toList <+: output.text.toList)
      ((earlier.channels.toList.zip last.channels.toList).filter fun channel =>
        channel.2.visibility ≠ .hidden) front

/-- A sink that has grown is output with what it held before. -/
theorem Sink.GrowsTo.keepsWritten {earlier last : Sink} (grows : earlier.GrowsTo last)
    (targets : Targets) : KeepsWritten earlier last targets (last.output targets) := by
  have grows (index : Nat) (channel : Channel)
      (found : earlier.channels.toList[index]? = some channel) :
      ∃ grown, last.channels.toList[index]? = some grown ∧ channel.GrowsTo grown := by
    rw [Array.getElem?_toList] at found ⊢
    exact grows index channel found
  unfold KeepsWritten output
  generalize earlier.channels.toList = channels at grows ⊢
  generalize last.channels.toList = all at grows ⊢
  induction channels generalizing all with
  | nil => exact ⟨[], _, rfl, .nil⟩
  | cons channel channels inductionHypothesis =>
      obtain ⟨grown, found, continues⟩ := grows 0 channel rfl
      obtain ⟨others, rfl⟩ : ∃ others, all = grown :: others := by
        cases all with
        | nil => cases found
        | cons first others => exact ⟨others, congrArg (· :: others) (Option.some.inj found)⟩
      obtain ⟨front, behind, written, held⟩ :=
        inductionHypothesis others fun index => grows (index + 1)
      rw [List.zip_cons_cons, List.filter_cons, List.filter_cons]
      split
      · exact ⟨_ :: front, behind, congrArg (_ :: ·) written,
          .cons ⟨continues.name, continues.render targets⟩ held⟩
      · exact ⟨front, behind, written, held⟩

end Output

namespace Machine

open Output

/-! ### Steps -/

/-- What the sink of the run held, it still holds. -/
def Store.GrowsTo (earlier later : Store) : Prop :=
  (earlier.sinkAt 0).GrowsTo (later.sinkAt 0)

namespace Store.GrowsTo

variable {earlier store later : Store} {sink : Nat}

theorem refl (store : Store) : store.GrowsTo store :=
  Sink.GrowsTo.refl _

theorem trans (first : earlier.GrowsTo store) (second : store.GrowsTo later) :
    earlier.GrowsTo later :=
  Sink.GrowsTo.trans first second

theorem of_sinks (same : later.sinks = earlier.sinks) : earlier.GrowsTo later := by
  rw [Store.GrowsTo, sinkAt, sinkAt, same]
  exact .refl _

/-- A workspace that has grown is taken over, be it that of the run or another one. -/
theorem absorb {workspace : Workspace} (same : later.sinks = earlier.sinks)
    (grows : (earlier.sinkAt sink).GrowsTo workspace.sink) :
    earlier.GrowsTo (later.absorb sink workspace) := by
  unfold Store.GrowsTo sinkAt at *
  simp only [Store.absorb, same, Array.getD_eq_getD_getElem?,
    Array.getElem?_setIfInBounds] at grows ⊢
  by_cases bottom : sink = 0
  · subst bottom
    by_cases inside : 0 < earlier.sinks.size
    · simpa [inside] using grows
    · simp [inside]
  · simp [bottom]

end Store.GrowsTo

namespace Context

variable {context : Context} {store : Store} {sink : Nat} {progress : Progress}

theorem growsTo_takeTurn : store.GrowsTo (context.takeTurn store sink).store := by
  unfold takeTurn
  split
  · exact .refl store
  · split
    · refine .absorb rfl ?_
      unfold Workspace.chooseItem
      split
      · exact .refl _
      · split <;> exact .refl _
    · exact .of_sinks rfl

theorem growsTo_follow {before : Store} {outcome : Outcome} (same : before.sinks = store.sinks)
    (grows : (store.sinkAt sink).GrowsTo outcome.workspace.sink) :
    store.GrowsTo (before.follow sink outcome).store := by
  have absorbed : store.GrowsTo (before.absorb sink outcome.workspace) := .absorb same grows
  unfold Store.follow
  cases outcome.request <;> exact absorbed

theorem growsTo_resumeTag {call : TagCall}
    (resumed : context.resumeTag store sink call = .ok progress) :
    store.GrowsTo progress.store := by
  have same := sinks_settlePlan store call.plan
  unfold resumeTag at resumed
  split at resumed
  · next settled =>
      rw [settled] at same
      cases resumed
      exact .of_sinks same
  · next settledStore done settled =>
      rw [settled] at same
      obtain ⟨outcome, performed, rfl⟩ := map_eq_ok.mp resumed
      refine growsTo_follow same ?_
      have grows := Invocation.growsTo_perform _ _ _ outcome performed
      rwa [Store.workspace, Store.sinkAt, same] at grows

theorem growsTo_resumeSubroutine (call : SubroutineCall) :
    store.GrowsTo (context.resumeSubroutine store call).store := by
  have same := sinks_settlePlan store call.plan
  unfold resumeSubroutine
  split <;> next settled =>
    rw [settled] at same
    exact .of_sinks same

theorem growsTo_replaceNext {before : Store} (replacement : Replacement)
    (same : before.sinks = store.sinks) :
    store.GrowsTo (context.replaceNext before sink replacement).store := by
  unfold replaceNext
  split
  · have found : store.sinkAt sink = before.sinkAt sink := by
      rw [Store.sinkAt, Store.sinkAt, same]
    exact .absorb same (found ▸ Workspace.growsTo_write (before.workspace sink) _)
  · exact .of_sinks same

theorem growsTo_settleArithmetic {workspace changed : Workspace} {isStatement : Bool}
    {position : Pattern.Position} {text : String}
    (settled : context.settleArithmetic workspace isStatement position text = .ok changed) :
    workspace.sink.GrowsTo changed.sink := by
  unfold settleArithmetic at settled
  split at settled
  · cases settled
  · cases settled
    split
    · exact .refl _
    · refine Workspace.growsTo_write_of_eq ?_ _
      rfl

/-- A task takes nothing from the sink of the run. -/
theorem growsTo_resume {task : Task} (resumed : context.resume store sink task = .ok progress) :
    store.GrowsTo progress.store := by
  cases task with
  | takeTurn =>
      cases resumed
      exact growsTo_takeTurn
  | callTag call => exact growsTo_resumeTag resumed
  | callSubroutine call =>
      cases resumed
      exact growsTo_resumeSubroutine call
  | findMatches regex code =>
      cases resumed
      refine growsTo_replaceNext _ ?_
      rfl
  | replaceMatches replacement =>
      cases resumed
      refine growsTo_replaceNext _ ?_
      rfl
  | runGenerated =>
      obtain ⟨code, -, rfl⟩ := map_eq_ok.mp resumed
      exact .of_sinks rfl
  | settleArithmetic isStatement position =>
      obtain ⟨workspace, settled, rfl⟩ := map_eq_ok.mp resumed
      exact .absorb rfl (growsTo_settleArithmetic settled)
  | defineGenerated name parameters =>
      obtain ⟨workspace, defined, rfl⟩ := map_eq_ok.mp resumed
      obtain ⟨pattern, -, rfl⟩ := map_eq_ok.mp defined
      exact .absorb rfl (.refl _)

/-- A trial that is taken over adds to the sink beneath. -/
theorem growsTo_complete (context : Context) (completion : Completion) :
    store.GrowsTo (context.complete store sink completion).store := by
  cases completion with
  | dropComparison | dropBindings => exact .of_sinks rfl
  | settleTrial fallback blankIsEmpty =>
      simp only [complete]
      split
      · exact .of_sinks rfl
      · exact .absorb rfl (Sink.growsTo_mergeInto _ _)

end Context

section Stepping

open SeededText.Machine.Configuration

variable {engine : Engine} {store : Store} {top : Activation} {beneath : List Activation}
  {progress : Progress} {configuration reached : Configuration}

/-- The sink of the run is always there. -/
theorem WellStacked.sinks_pos (wellStacked : WellStacked engine configuration) :
    0 < configuration.store.sinks.size := by
  have size : configuration.store.sinks.size = _ :=
    (congrArg Shape.sinks wellStacked.shape).trans (shapeOf_sinks _)
  omega

/-- A block is left with what was written in it. -/
theorem Configuration.growsTo_leaveBlock
    (inside : 0 < configuration.leaveBlock.store.sinks.size) :
    configuration.store.GrowsTo configuration.leaveBlock.store := by
  obtain ⟨store, stack⟩ := configuration
  cases repeaters : store.repeaters with
  | nil =>
      simp only [leaveBlock, repeaters]
      exact .of_sinks rfl
  | cons repeater outer =>
      cases bases : store.bases with
      | nil =>
          simp only [leaveBlock, repeaters, bases]
          exact .of_sinks rfl
      | cons base others =>
          simp only [leaveBlock, repeaters, bases, unwindTo, Store.cutTo, Array.take_eq_extract,
            Array.size_extract] at inside ⊢
          have same : (store.sinks.extract 0 (store.sinks.size -
              (stack.take (stack.length - (base.depth + 1))).countP Activation.ownsSink))[0]? =
              store.sinks[0]? := by
            rw [Array.getElem?_extract, if_pos (by omega)]
          rw [Store.GrowsTo, Store.sinkAt, Store.sinkAt, Array.getD_eq_getD_getElem?,
            Array.getD_eq_getD_getElem?, same]
          exact .refl _

theorem Configuration.growsTo_settle (grows : store.GrowsTo progress.store)
    (present : 0 < progress.store.sinks.size) (inside : 0 < reached.store.sinks.size)
    (settled : settle engine top beneath progress = .ok reached) : store.GrowsTo reached.store := by
  refine grows.trans ?_
  unfold settle at settled
  cases move : progress.move with
  | enter entries =>
      rw [move] at settled
      obtain ⟨added, -, sinks⟩ := sinks_enterAll settled
      rw [Store.GrowsTo, Store.sinkAt, Store.sinkAt, sinks, Array.getD_eq_getD_getElem?,
        Array.getD_eq_getD_getElem?, Array.getElem?_append_left present]
      exact .refl _
  | leaveBlock =>
      rw [move] at settled
      cases settled
      exact growsTo_leaveBlock inside

/-- A sink that is taken at the end of an activation is not that of the run. -/
theorem Configuration.growsTo_release (inside : 0 < (release store top).sinks.size) :
    store.GrowsTo (release store top) := by
  rw [Store.GrowsTo, Store.sinkAt, Store.sinkAt, Array.getD_eq_getD_getElem?,
    Array.getD_eq_getD_getElem?, sinks_release inside]
  exact .refl _

theorem WellStacked.release_pos (wellStacked : WellStacked engine ⟨store, top :: beneath⟩) :
    0 < (release store top).sinks.size := by
  have size : store.sinks.size = _ :=
    (congrArg Shape.sinks wellStacked.shape).trans (shapeOf_sinks _)
  have released := congrArg Shape.sinks (shape_release store top)
  simp only [Store.shape] at released
  rw [released, size, countP_cons_eq_toNat_add]
  omega

/-- No step takes anything from the sink of the run. -/
theorem Configuration.Steps.growsTo (steps : Steps engine configuration reached)
    (wellStacked : WellStacked engine configuration) :
    configuration.store.GrowsTo reached.store := by
  have inside := (steps.wellStacked wellStacked).sinks_pos
  obtain @⟨store, top, beneath, reached, stepped⟩ := steps
  have present : 0 < store.sinks.size := wellStacked.sinks_pos
  cases stepped_of_step (wellStacked.ordered.tasks top List.mem_cons_self) stepped with
  | resume task progress tasks resumed settled =>
      have writes := Context.writesTo_resume resumed
      exact growsTo_settle (Context.growsTo_resume resumed) (writes.size ▸ present) inside settled
  | read token stop workspace construct idle next stopped reading settled =>
      have grows : store.GrowsTo (store.absorb top.sink workspace) :=
        .absorb rfl (Context.grows_readConstruct _ _ _ _ _ _ reading)
      refine growsTo_settle (grows.trans (.of_sinks (Context.sinks_begin construct))) ?_ inside
        settled
      rw [Context.sinks_begin]
      simpa [Store.absorb] using present
  | leave idle ended left =>
      have released := wellStacked.release_pos
      unfold leave at left
      split at left
      · next completion below others completes =>
          have writes : (release store top).WritesTo below.sink _ :=
            Context.writesTo_complete (below.context engine (release store top)) completion
          exact (growsTo_release released).trans
            (growsTo_settle (Context.growsTo_complete _ completion) (writes.size ▸ released) inside
              left)
      · cases left
        exact growsTo_release released

theorem Configuration.Reaches.growsTo (reaches : Reaches engine configuration reached)
    (wellStacked : WellStacked engine configuration) :
    configuration.store.GrowsTo reached.store := by
  induction reaches with
  | refl => exact .refl _
  | tail reaches steps inductionHypothesis =>
      exact inductionHypothesis.trans (steps.growsTo (Reaches.wellStacked reaches wellStacked))

end Stepping

/-! ### Runs -/

section Runs

open SeededText.Machine.Configuration

variable {engine : Engine} {pattern : Pattern} {seed : UInt64}
  {configuration middle last : Configuration} {fault? : Option Fault}

/-- Whatever is reached lies before the end. -/
theorem Configuration.Reaches.reaches_last (toMiddle : Reaches engine configuration middle)
    (toLast : Reaches engine configuration last) (ends : last.Ends engine fault?) :
    Reaches engine middle last := by
  induction toMiddle with
  | refl => exact toLast
  | tail _ steps inductionHypothesis =>
      cases inductionHypothesis.cases_head with
      | inl same =>
          subst same
          obtain ⟨stepped⟩ := steps
          cases ends with
          | failed failed =>
              rw [failed] at stepped
              cases stepped
      | inr onwards =>
          obtain ⟨next, first, rest⟩ := onwards
          rwa [steps.deterministic first]

/-- Nothing that a run has written is lost. A step leaves all channels of the sink of the run in
their places with all that they held, and so does the run up to its end; if it fails, its output
begins with what they held. -/
theorem keepsWritten_of_reachable (reachable : Reachable engine pattern seed configuration) :
    (∀ reached, Steps engine configuration reached →
      (configuration.store.sinkAt 0).GrowsTo (reached.store.sinkAt 0)) ∧
    (configuration.store.sinkAt 0).GrowsTo ((run engine pattern seed).1.sinkAt 0) ∧
    ∀ failure, engine.run pattern seed = .error failure →
      KeepsWritten (configuration.store.sinkAt 0) ((run engine pattern seed).1.sinkAt 0)
        (run engine pattern seed).1.targets failure.written := by
  have wellStacked := Reachable.wellStacked reachable
  obtain ⟨last, fault?, reaches, ends, outcome⟩ := exists_run_eq engine pattern seed
  have grows : configuration.store.GrowsTo last.store :=
    (Reaches.reaches_last reachable reaches ends).growsTo wellStacked
  rw [outcome]
  refine ⟨fun reached steps => steps.growsTo wellStacked, grows, fun failure failed => ?_⟩
  have written : failure.written = last.store.output := by
    rw [Engine.run, outcome] at failed
    cases fault? with
    | none => cases failed
    | some fault =>
        cases failed
        rfl
  rw [written]
  exact Sink.GrowsTo.keepsWritten grows last.store.targets

end Runs

/-! ### A failure inside arithmetic

The source of the arithmetic writes to a sink of its own, and then its tag is not known. What had
been written before the arithmetic is output. -/

namespace FailureInArithmetic

open Pattern SeededText.Machine.Configuration

/-- The pattern `x(y[no])`. -/
def pattern : Pattern where
  name := "sum"
  source := "x(y[no])"
  tokens := #[⟨.text, "x", .start⟩, ⟨.opens .round, "(", .start⟩, ⟨.text, "y", .start⟩,
    ⟨.opens .square, "[", .start⟩, ⟨.text, "no", .start⟩, ⟨.closes .square, "]", .start⟩,
    ⟨.closes .round, ")", .start⟩]

def whole : Activation :=
  .enter (.shared (.whole pattern)) 0

def written : Store :=
  (Store.fresh .standard 0).absorb 0 ((Workspace.fresh .standard 0).write "x")

/-- The source of the arithmetic before its first token. -/
def source : Activation :=
  .enter (.apart ⟨pattern, 2, 6⟩) 1

def sourceEntered : Configuration :=
  ⟨{ written with sinks := written.sinks.push .fresh },
    [source, { whole with cursor := 7, tasks := [.settleArithmetic false .start] }]⟩

def sourceWritten : Configuration :=
  ⟨sourceEntered.store.absorb 1 ((sourceEntered.store.workspace 1).write "y"),
    { source with cursor := 3 } :: sourceEntered.stack.tail⟩

def failure : Failure :=
  ⟨⟨"sum", .start, .misused (.unknownTag "no")⟩, [⟨mainChannel, .shared, "x"⟩]⟩

theorem readConstruct_arithmetic (context : Context) (workspace : Workspace)
    (same : context.pattern = pattern) :
    context.readConstruct workspace 1 7 ⟨.opens .round, "(", .start⟩ =
      .ok (workspace, .arithmetic false .start ⟨pattern, 2, 6⟩) := by
  have first : pattern.skipBlanks 2 6 = 2 := by
    rw [Pattern.skipBlanks]
    rfl
  simp only [Context.readConstruct, Context.readArithmetic, same, first]
  rfl

/-- There is no tag of that name. -/
theorem readConstruct_tag (context : Context) (workspace : Workspace)
    (same : context.pattern = pattern) :
    context.readConstruct workspace 3 6 ⟨.opens .square, "[", .start⟩ =
      .error failure.fault := by
  have first : pattern.skipBlanks 4 5 = 4 := by
    rw [Pattern.skipBlanks]
    rfl
  have behind : pattern.skipBlanks 5 5 = 5 := pattern.skipBlanks_self 5
  have token : pattern.tokens[4]? = some ⟨.text, "no", .start⟩ := rfl
  have named : isName "no" = true := by decide
  have unknown : resolveTag "no" 0 = .error (.unknown "no") := rfl
  simp [Context.readConstruct, Context.readTag, Context.callTag, Context.argumentSpans, same, first,
    behind, token, named, unknown, bind, Except.bind]
  simp only [Context.refuse, Context.fault, same]
  rfl

theorem reachable_sourceEntered : Reachable .standard pattern 0 sourceEntered := by
  have closes : pattern.scopeClose 1 = .ok 6 := by
    simp [Pattern.scopeClose, Pattern.closeFrom, pattern]
  have first : Steps .standard (.start .standard pattern 0)
      ⟨written, [{ whole with cursor := 1 }]⟩ := ⟨rfl⟩
  exact .tail (.single first) (.of_read rfl rfl (Context.constructStop_of_close rfl closes)
    (readConstruct_arithmetic _ _ rfl) rfl)

theorem steps_sourceWritten : Steps .standard sourceEntered sourceWritten := ⟨rfl⟩

theorem run_pattern_eq : Engine.standard.run pattern 0 = .error failure := by
  have closes : pattern.scopeClose 3 = .ok 5 := by
    simp [Pattern.scopeClose, Pattern.closeFrom, pattern]
  have ends : sourceWritten.Ends .standard (some failure.fault) :=
    .failed (step_of_unread rfl rfl (Context.constructStop_of_close rfl closes)
      (readConstruct_tag _ _ rfl))
  have outcome : Machine.run .standard pattern 0 = (sourceWritten.store, some failure.fault) :=
    runStack_of_reaches (.start .standard pattern 0)
      (reachable_sourceEntered.tail steps_sourceWritten) ends
  rw [Engine.run, outcome]
  rfl

theorem keepsWritten_sourceEntered :
    Reachable .standard pattern 0 sourceEntered ∧
      Steps .standard sourceEntered sourceWritten ∧
      (sourceEntered.store.sinkAt 0).GrowsTo (sourceWritten.store.sinkAt 0) ∧
      Engine.standard.run pattern 0 = .error failure ∧
      KeepsWritten (sourceEntered.store.sinkAt 0) ((Machine.run .standard pattern 0).1.sinkAt 0)
        (Machine.run .standard pattern 0).1.targets failure.written := by
  obtain ⟨grows, -, keeps⟩ := keepsWritten_of_reachable reachable_sourceEntered
  exact ⟨reachable_sourceEntered, steps_sourceWritten, grows _ steps_sourceWritten, run_pattern_eq,
    keeps failure run_pattern_eq⟩

end FailureInArithmetic

end Machine

end SeededText
