import SeededText.Proofs.Requests
import SeededText.Proofs.Sinks

/-!
Contract: code with a sink of its own does not touch what was written before.

While an activation that owns a sink is on the stack, all steps write to its sink or to later ones.
So the output of a trial that turns out empty, or that is abandoned by leaving a block, is gone
without a trace: channels, texts and capitalization are as they were before the trial.

Owns: sinks beneath an owner, trials that come to nothing.
Does not own: the sink that a single step writes to (`SeededText.Proofs.Sinks`).
-/

namespace SeededText.Machine

/-! ### Sinks beneath an owner -/

section Order

variable {engine : Engine} {configuration : Configuration} {stack above beneath : List Activation}
  {first owner : Activation} {rest : List Activation}

/-- Activations higher up write to no lower sink. -/
theorem Indexed.sink_le (indexed : Indexed stack) (higher : (first :: rest) <:+ stack)
    (lower : (owner :: beneath) <:+ (first :: rest)) : owner.sink ≤ first.sink := by
  rw [indexed.sink_eq higher, indexed.sink_eq (lower.trans higher)]
  exact lower.sublist.countP_le

theorem WellStacked.sink_lt_size (wellStacked : WellStacked engine configuration)
    (stack : (owner :: beneath) <:+ configuration.stack) :
    owner.sink < configuration.store.sinks.size := by
  have size : configuration.store.sinks.size = _ :=
    (congrArg Shape.sinks wellStacked.shape).trans (shapeOf_sinks _)
  rw [size, wellStacked.ordered.indexed.sink_eq stack]
  exact Nat.lt_succ_of_le stack.sublist.countP_le

end Order

namespace Configuration

/-- A step that neither finishes nor drops the activation at an index. -/
inductive StepsWith (engine : Engine) (index : Nat) : Configuration → Configuration → Prop where
  | intro {store : Store} {top : Activation} {beneath : List Activation} {reached : Configuration}
      (stepped : step engine store top beneath = .ok reached)
      (unfinished : beneath.length = index → ¬ top.IsAtEnd)
      (kept : index < reached.stack.length) :
      StepsWith engine index ⟨store, top :: beneath⟩ reached

/-- Steps throughout which the activation at an index is neither finished nor dropped. -/
abbrev ReachesWith (engine : Engine) (index : Nat) : Configuration → Configuration → Prop :=
  Relation.ReflTransGen (StepsWith engine index)

/-- An activation lies on certain others, perhaps under more, and the sinks below its own are the
given ones. -/
structure Covers (owner : Activation) (beneath : List Activation) (sinks : Array Output.Sink)
    (configuration : Configuration) : Prop where
  stack : ∃ above later, configuration.stack = above ++ later :: beneath ∧ later.Continues owner
  sinks : ∀ index < owner.sink, configuration.store.sinks[index]? = sinks[index]?

section Covering

variable {engine : Engine} {configuration reached : Configuration} {owner : Activation}
  {above beneath : List Activation} {sinks : Array Output.Sink}

theorem StepsWith.wellStacked (steps : StepsWith engine beneath.length configuration reached)
    (wellStacked : WellStacked engine configuration) : WellStacked engine reached := by
  obtain ⟨stepped, -, -⟩ := steps
  exact wellStacked.step stepped

/-- A step that keeps an activation leaves what it lies on and the sinks below its own as they
are. -/
theorem Covers.stepsWith (wellStacked : WellStacked engine configuration)
    (covers : Covers owner beneath sinks configuration)
    (steps : StepsWith engine beneath.length configuration reached) :
    Covers owner beneath sinks reached := by
  obtain ⟨⟨above, later, stack, continues⟩, same⟩ := covers
  obtain @⟨store, top, rest, reached, stepped, unfinished, kept⟩ := steps
  have reachedStacked := wellStacked.step stepped
  have suffix : (later :: beneath) <:+ (top :: rest) := ⟨above, stack.symm⟩
  have present : owner.sink < store.sinks.size := continues.sink ▸ wellStacked.sink_lt_size suffix
  have indexed := wellStacked.ordered.indexed
  have covered (above : List Activation) (final : Activation)
      (stack : reached.stack = above ++ final :: beneath) (continues : final.Continues owner)
      {sink : Nat} (except : SameExcept sink store.sinks reached.store.sinks)
      (below : owner.sink ≤ sink) : Covers owner beneath sinks reached := by
    have inside : owner.sink < reached.store.sinks.size :=
      continues.sink ▸ reachedStacked.sink_lt_size ⟨above, stack.symm⟩
    refine ⟨⟨above, final, stack, continues⟩, fun index lower => ?_⟩
    rw [except index (by omega) (by omega) (by omega)]
    exact same index lower
  have topSink : owner.sink ≤ top.sink :=
    continues.sink ▸ indexed.sink_le (List.suffix_refl _) suffix
  -- The step is taken by the activation itself, or by one above it that writes to no lower sink.
  cases effect_step wellStacked stepped with
  | stays entered renewed busy stays grown except =>
      cases above with
      | nil =>
          obtain ⟨rfl, rfl⟩ := List.cons.inj stack
          exact covered entered renewed grown (stays.trans continues) except topSink
      | cons first above =>
          obtain ⟨rfl, rfl⟩ := List.cons.inj stack
          refine covered (entered ++ renewed :: above) later ?_ continues except topSink
          rw [grown, List.append_assoc, List.cons_append]
          rfl
  | leavesBlock dropped busy some left except =>
      have shorter : (later :: beneath) <:+ reached.stack :=
        List.suffix_of_suffix_length_le suffix ⟨dropped, left.symm⟩ kept
      obtain ⟨above, stack⟩ := shorter
      exact covered above later stack.symm continues except topSink
  | ends entered renewed below others ended lower stays grown except =>
      cases above with
      | nil =>
          obtain ⟨rfl, rfl⟩ := List.cons.inj stack
          exact absurd ended (unfinished rfl)
      | cons first above =>
          have rest : rest = above ++ later :: beneath := (List.cons.inj stack).2
          have belowSink : owner.sink ≤ below.sink :=
            continues.sink ▸ indexed.sink_le ⟨[top], congrArg (top :: ·) lower.symm⟩
              ⟨above, rest.symm.trans lower⟩
          rw [lower] at rest
          cases above with
          | nil =>
              obtain ⟨rfl, rfl⟩ := List.cons.inj rest
              exact covered entered renewed grown (stays.trans continues) except belowSink
          | cons second above =>
              obtain ⟨rfl, rfl⟩ := List.cons.inj rest
              refine covered (entered ++ renewed :: above) later ?_ continues except belowSink
              rw [grown, List.append_assoc, List.cons_append]
              rfl
  | finishes ended lower empty =>
      rw [empty] at kept
      exact absurd kept (Nat.not_lt_zero _)

/-- A run that keeps an activation leaves what it lies on and the sinks below its own as they
are. -/
theorem Covers.reachesWith (wellStacked : WellStacked engine configuration)
    (covers : Covers owner beneath sinks configuration)
    (reaches : ReachesWith engine beneath.length configuration reached) :
    WellStacked engine reached ∧ Covers owner beneath sinks reached := by
  induction reaches with
  | refl => exact ⟨wellStacked, covers⟩
  | tail _ steps inductionHypothesis =>
      obtain ⟨wellStacked, covers⟩ := inductionHypothesis
      exact ⟨steps.wellStacked wellStacked, covers.stepsWith wellStacked steps⟩

end Covering

end Configuration

/-! ### Trials -/

/-- Whether code is entered as a trial. -/
def Entry.isTrial (entry : Entry) : Bool :=
  match entry.completion? with
  | some (.settleTrial _ _) => true
  | _ => false

def Move.entersTrial (move : Move) : Bool :=
  move.entries.any Entry.isTrial

section Trials

variable {engine : Engine} {context : Context} {store : Store} {sink : Nat} {progress : Progress}
  {entry : Entry} {fallback : Code} {blankIsEmpty : Bool}

/-- A tag that enters a trial has not written anything. -/
theorem Store.sinks_of_attempt (store : Store) (sink : Nat) {invocation : Invocation}
    {operation : TagOperation} {outcome : Outcome}
    (performed : invocation.perform (store.workspace sink) operation = .ok outcome)
    (enters : (store.follow sink outcome).move.entersTrial = true) :
    (store.follow sink outcome).store.sinks = store.sinks := by
  cases request : outcome.request with
  | attempt trial fallback blankIsEmpty =>
      have same := invocation.workspace_of_attempt _ performed request
      simp only [follow, grant, request, same]
      exact congrArg Store.sinks (store.absorb_workspace sink)
  | nothing | run code | compare comparison body | leaveBlock =>
      simp [follow, grant, request, Move.entersTrial, Move.entries, Entry.isTrial,
        Entry.shared] at enters

namespace Context

theorem entersTrial_replaceNext (replacement : Replacement) :
    (context.replaceNext store sink replacement).move.entersTrial = false := by
  unfold replaceNext
  split <;> rfl

/-- When a trial is entered, nothing has been written since the step before. -/
theorem sinks_of_trial {task : Task} (resumed : context.resume store sink task = .ok progress)
    (enters : progress.move.entersTrial = true) : progress.store.sinks = store.sinks := by
  cases task with
  | takeTurn =>
      cases resumed
      unfold takeTurn at enters ⊢
      split at enters
      · cases enters
      · split at enters
        · simp [Move.entersTrial, Move.entries, Entry.isTrial, Entry.shared] at enters
        · cases enters
  | callTag call =>
      have same := sinks_settlePlan store call.plan
      simp only [resume, resumeTag] at resumed
      split at resumed
      · next settled =>
          cases resumed
          cases enters
      · next settledStore done settled =>
          rw [settled] at same
          obtain ⟨outcome, performed, rfl⟩ := map_eq_ok.mp resumed
          exact (settledStore.sinks_of_attempt sink performed enters).trans same
  | callSubroutine call =>
      cases resumed
      unfold resumeSubroutine at enters
      split at enters <;> cases enters
  | findMatches regex code =>
      cases resumed
      rw [entersTrial_replaceNext] at enters
      cases enters
  | replaceMatches replacement =>
      cases resumed
      rw [entersTrial_replaceNext] at enters
      cases enters
  | runGenerated =>
      obtain ⟨code, -, rfl⟩ := map_eq_ok.mp resumed
      cases enters
  | settleArithmetic isStatement position =>
      obtain ⟨workspace, -, rfl⟩ := map_eq_ok.mp resumed
      cases enters
  | defineGenerated name parameters =>
      obtain ⟨workspace, -, rfl⟩ := map_eq_ok.mp resumed
      cases enters

theorem entersTrial_begin {depth : Nat} (construct : Construct) :
    (context.begin store depth construct).move.entersTrial = false := by
  cases construct <;> rfl

end Context

end Trials

namespace Configuration

/-- A step by which a trial is entered. -/
structure EntersTrial (engine : Engine) (fallback : Code) (blankIsEmpty : Bool)
    (before started : Configuration) : Prop where
  steps : Steps engine before started
  trial : ∃ trial beneath, started.stack = trial :: beneath ∧
    beneath.length = before.stack.length ∧
    trial.completion? = some (.settleTrial fallback blankIsEmpty)

/-- A step behind a trial at an index that has come to its end and has printed nothing. -/
structure FallsBack (engine : Engine) (index : Nat) (blankIsEmpty : Bool)
    (ended next : Configuration) : Prop where
  steps : Steps engine ended next
  trial : ∃ trial beneath, ended.stack = trial :: beneath ∧ beneath.length = index ∧
    trial.IsAtEnd ∧
    isNothing blankIsEmpty ((ended.store.sinkAt trial.sink).mainText ended.store.targets) = true

/-- A step that drops an activation which has not come to its end. -/
structure Abandons (engine : Engine) (index : Nat) (before next : Configuration) : Prop where
  steps : Steps engine before next
  dropped : next.stack.length ≤ index
  unfinished : ∀ top beneath, before.stack = top :: beneath → beneath.length = index →
    ¬ top.IsAtEnd

section Trials

variable {engine : Engine} {before started ended next : Configuration} {fallback : Code}
  {blankIsEmpty : Bool}

theorem length_enterAll {store : Store} {top : Activation} {beneath : List Activation}
    {entries : List Entry} {reached : Configuration}
    (entered : enterAll engine entries ⟨store, top :: beneath⟩ = .ok reached) :
    reached.stack.length = beneath.length + 1 + entries.length := by
  induction entries generalizing store top beneath with
  | nil =>
      cases entered
      rfl
  | cons entry entries inductionHypothesis =>
      obtain ⟨higher, first, entered⟩ := bind_eq_ok.mp entered
      obtain ⟨-, rfl⟩ := enter_ok first
      rw [inductionHypothesis entered]
      simp only [List.length_cons]
      omega

theorem length_leave_le {store : Store} {top : Activation} {beneath : List Activation}
    {reached : Configuration} (left : leave engine store top beneath = .ok reached) :
    reached.stack.length ≤ beneath.length + 1 := by
  unfold leave at left
  split at left
  · next completion below others completes =>
      rcases move_complete (below.context engine (release store top)) (release store top) below.sink
        completion with move | ⟨fallback, -, move⟩
      all_goals
        simp only [settle, shift, move] at left
        rw [length_enterAll left]
        simp
  · cases left
    exact Nat.le_succ _

section Starting

variable {store : Store} {top trial : Activation} {beneath lower : List Activation}
  {progress : Progress}

/-- If progress enters a trial, the sinks are those from before and that of the trial. -/
theorem sinks_of_settle
    (fits : ∀ entry ∈ progress.move.entries, Completion.Fits entry.ownsSink entry.completion?)
    (quiet : progress.move.entersTrial = true → progress.store.sinks = store.sinks)
    (settled : settle engine top beneath progress = .ok started)
    (stack : started.stack = trial :: lower) (height : lower.length = beneath.length + 1)
    (completes : trial.completion? = some (.settleTrial fallback blankIsEmpty)) :
    started.store.sinks = store.sinks.push .fresh := by
  unfold settle at settled
  cases move : progress.move with
  | enter entries =>
      rw [move] at settled fits quiet
      have length := length_enterAll settled
      rw [stack, List.length_cons] at length
      obtain ⟨entry, rfl⟩ := List.length_eq_one_iff.mp (by omega : entries.length = 1)
      rw [shift, enterAll_singleton] at settled
      obtain ⟨-, rfl⟩ := enter_ok settled
      obtain ⟨rfl, -⟩ := List.cons.inj stack
      have trial : entry.completion? = some (.settleTrial fallback blankIsEmpty) := completes
      have owns : entry.ownsSink = true := by
        have fit := fits entry List.mem_cons_self
        rwa [trial] at fit
      have same : progress.store.sinks = store.sinks :=
        quiet (by simp [Move.entersTrial, Move.entries, Entry.isTrial, trial])
      simp only [Store.provide, owns, if_true, same]
  | leaveBlock =>
      rw [move] at settled
      cases settled
      have length := (leaveBlock_suffix
        ⟨progress.store, { top with elseArmed := progress.elseArmed } :: beneath⟩).length_le
      rw [stack] at length
      simp only [List.length_cons] at length
      omega

end Starting

/-- A trial starts with a new sink on top of those that were there. -/
theorem EntersTrial.sinks_eq (enters : EntersTrial engine fallback blankIsEmpty before started)
    (wellStacked : WellStacked engine before) :
    started.store.sinks = before.store.sinks.push .fresh := by
  obtain ⟨⟨stepped⟩, trial, lower, stack, height, completes⟩ := enters
  cases stepped_of_step (wellStacked.ordered.tasks _ List.mem_cons_self) stepped with
  | resume task progress tasks resumed settled =>
      exact sinks_of_settle (wellStacked.fits_resume tasks resumed).fits
        (Context.sinks_of_trial resumed) settled stack height completes
  | leave idle ended left =>
      have length := length_leave_le left
      rw [stack] at length
      simp only [List.length_cons] at length height
      omega
  | read token stop workspace construct idle next stopped reading settled =>
      refine sinks_of_settle (wellStacked.fits_begin idle workspace construct).fits ?_ settled stack
        height completes
      intro enters
      rw [Context.entersTrial_begin] at enters
      cases enters

/-- The sink of an owner lies on those of the owners beneath. -/
theorem sink_eq_of_owner {configuration : Configuration} {owner : Activation}
    {beneath : List Activation} (wellStacked : WellStacked engine configuration)
    (stack : (owner :: beneath) <:+ configuration.stack) (owns : owner.ownsSink = true) :
    owner.sink = beneath.countP Activation.ownsSink + 1 := by
  rw [wellStacked.ordered.indexed.sink_eq stack, List.countP_cons_of_pos owns]

theorem EntersTrial.covers (enters : EntersTrial engine fallback blankIsEmpty before started)
    (wellStacked : WellStacked engine before) :
    ∃ trial beneath, beneath.length = before.stack.length ∧
      trial.completion? = some (.settleTrial fallback blankIsEmpty) ∧ trial.ownsSink = true ∧
      trial.sink = before.store.sinks.size ∧
      Covers trial beneath before.store.sinks started := by
  have sinks := enters.sinks_eq wellStacked
  have startedStacked := enters.steps.wellStacked wellStacked
  obtain ⟨steps, trial, beneath, stack, height, completes⟩ := enters
  have indexed := startedStacked.ordered.indexed
  have linked := startedStacked.ordered.linked
  have shape := congrArg Shape.sinks startedStacked.shape
  rw [stack] at indexed linked shape
  have sink : trial.sink = before.store.sinks.size := by
    have size : started.store.sinks.size = trial.sink + 1 := shape.trans indexed.1.symm
    rw [sinks, Array.size_push] at size
    omega
  have owns : trial.ownsSink = true := by
    cases beneath with
    | nil =>
        have plain := linked.2
        rw [completes] at plain
        cases plain
    | cons below others =>
        have fits := linked.2.1
        rwa [completes] at fits
  refine ⟨trial, beneath, height, completes, owns, sink,
    ⟨[], trial, stack, ⟨rfl, rfl, rfl, rfl⟩⟩, ?_⟩
  intro index lower
  rw [sinks, Array.getElem?_push, if_neg (by omega)]

/-- When a fallback starts, the sinks are those below that of the trial. -/
theorem Covers.fallsBack {trial : Activation} {beneath : List Activation}
    {sinks : Array Output.Sink} (wellStacked : WellStacked engine ended)
    (covers : Covers trial beneath sinks ended) (owns : trial.ownsSink = true)
    (completes : trial.completion? = some (.settleTrial fallback blankIsEmpty))
    (sink : trial.sink = sinks.size)
    (fallsBack : FallsBack engine beneath.length blankIsEmpty ended next) :
    next.store.sinks = sinks ∧ ∃ parent others,
      next.stack = .enter (.shared fallback) parent.sink :: parent :: others := by
  obtain ⟨⟨above, later, whole, continues⟩, same⟩ := covers
  obtain ⟨steps, last, lower, stack, height, atEnd, nothing⟩ := fallsBack
  obtain @⟨store, top, rest, next, stepped⟩ := steps
  obtain ⟨rfl, rfl⟩ := List.cons.inj stack
  have none : above = [] := by
    have length := congrArg List.length whole
    simp only [List.length_cons, List.length_append] at length
    exact List.eq_nil_of_length_eq_zero (by omega)
  subst none
  obtain ⟨rfl, rfl⟩ := List.cons.inj whole
  rw [← continues.ownsSink] at owns
  rw [← continues.completion?] at completes
  rw [← continues.sink] at sink same
  have size : store.sinks.size = top.sink + 1 :=
    (congrArg Shape.sinks wellStacked.shape).trans wellStacked.ordered.indexed.1.symm
  have linked := wellStacked.ordered.linked
  cases stepped_of_step (wellStacked.ordered.tasks _ List.mem_cons_self) stepped with
  | resume task progress tasks resumed settled => simp [atEnd.1] at tasks
  | read token stop workspace construct idle next stopped reading settled =>
      simp [atEnd.2] at next
  | leave idle ended left =>
      cases rest with
      | nil =>
          have plain := linked.2
          rw [completes] at plain
          cases plain
      | cons below others =>
          have text : (release store top).resultText =
              (store.sinkAt top.sink).mainText store.targets := by
            simp [release, owns, Store.resultText, Store.topResult, size]
          have sinks : (release store top).sinks = store.sinks.pop := by
            simp [release, owns]
          simp only [leave, completes, Context.complete, text, nothing, if_true, settle, shift,
            Context.enter, enterAll_singleton] at left
          obtain ⟨-, rfl⟩ := enter_ok left
          refine ⟨?_, _, others, rfl⟩
          show (release store top).sinks = _
          rw [sinks]
          apply Array.ext_getElem?
          intro index
          rw [Array.getElem?_pop, size, Nat.add_sub_cancel]
          split
          · next inside => exact same index inside
          · next outside => exact (Array.getElem?_eq_none (by omega)).symm

/-- A trial that is abandoned leaves those of the sinks below its own that are still there. -/
theorem Covers.abandons {trial : Activation} {beneath : List Activation}
    {sinks : Array Output.Sink} (wellStacked : WellStacked engine ended)
    (covers : Covers trial beneath sinks ended) (owns : trial.ownsSink = true)
    (sink : trial.sink = sinks.size)
    (abandons : Abandons engine beneath.length ended next) :
    next.store.sinks = sinks.take next.store.sinks.size := by
  obtain ⟨⟨above, later, whole, continues⟩, same⟩ := covers
  obtain ⟨@⟨store, top, rest, next, stepped⟩, dropped, unfinished⟩ := abandons
  have nextStacked := wellStacked.step stepped
  have height : beneath.length ≤ rest.length := by
    have length := congrArg List.length whole
    simp only [List.length_cons, List.length_append] at length
    omega
  have suffix : (later :: beneath) <:+ (top :: rest) := ⟨above, whole.symm⟩
  cases effect_step wellStacked stepped with
  | stays entered renewed busy stays grown except =>
      rw [grown, List.length_append, List.length_cons] at dropped
      omega
  | ends entered renewed below others atEnd lower stays grown except =>
      refine absurd atEnd (unfinished top rest rfl ?_)
      rw [grown, List.length_append, List.length_cons] at dropped
      rw [lower, List.length_cons] at height ⊢
      omega
  | finishes atEnd lower empty =>
      refine absurd atEnd (unfinished top rest rfl ?_)
      rw [lower, List.length_nil] at height ⊢
      omega
  | leavesBlock gone busy some left except =>
      have remaining : next.stack <:+ beneath :=
        List.suffix_of_suffix_length_le ⟨gone, left.symm⟩
          ((List.suffix_cons later beneath).trans suffix) dropped
      have size : next.store.sinks.size = next.stack.countP Activation.ownsSink + 1 :=
        (congrArg Shape.sinks nextStacked.shape).trans (shapeOf_sinks _)
      have fewer := remaining.sublist.countP_le (p := Activation.ownsSink)
      have own := sink_eq_of_owner wellStacked suffix (continues.ownsSink.trans owns)
      have topSink := wellStacked.ordered.indexed.sink_le (List.suffix_refl _) suffix
      have present : later.sink < store.sinks.size := wellStacked.sink_lt_size suffix
      rw [continues.sink, sink] at own topSink present
      rw [sink] at same
      apply Array.ext_getElem?
      intro index
      rw [Array.take_eq_extract, Array.getElem?_extract]
      split
      · next inside =>
          rw [Nat.zero_add, except index (by omega) (by omega) (by omega), same index (by omega)]
      · next outside => exact Array.getElem?_eq_none (by omega)

end Trials

/-- What code with a sink of its own leaves alone, as seen from a configuration of a run. -/
structure Isolated (engine : Engine) (configuration : Configuration) : Prop where
  /-- As long as an activation is neither finished nor dropped, no sink below that it writes to
  changes, whether it owns that sink or not. -/
  sinksBelow : ∀ above owner beneath reached, configuration.stack = above ++ owner :: beneath →
    ReachesWith engine beneath.length configuration reached →
    ∀ index < owner.sink, reached.store.sinks[index]? = configuration.store.sinks[index]?
  /-- When the fallback of a trial starts, all sinks are as they were before the trial. -/
  fallbacks : ∀ fallback blankIsEmpty started ended next,
    EntersTrial engine fallback blankIsEmpty configuration started →
    ReachesWith engine configuration.stack.length started ended →
    FallsBack engine configuration.stack.length blankIsEmpty ended next →
    next.store.sinks = configuration.store.sinks ∧ ∃ parent others,
      next.stack = .enter (.shared fallback) parent.sink :: parent :: others
  /-- When a trial is abandoned, all sinks that are left are as they were before the trial. -/
  abandoned : ∀ fallback blankIsEmpty started left next,
    EntersTrial engine fallback blankIsEmpty configuration started →
    ReachesWith engine configuration.stack.length started left →
    Abandons engine configuration.stack.length left next →
    next.store.sinks = configuration.store.sinks.take next.store.sinks.size

/-- Throughout a run, code with a sink of its own leaves the sinks below alone. -/
theorem isolated_of_reachable {engine : Engine} {pattern : Pattern} {seed : UInt64}
    {configuration : Configuration} (reachable : Reachable engine pattern seed configuration) :
    Isolated engine configuration := by
  have wellStacked := Reachable.wellStacked reachable
  refine ⟨?_, ?_, ?_⟩
  · intro above owner beneath reached stack reaches
    have covers : Covers owner beneath configuration.store.sinks configuration :=
      ⟨⟨above, owner, stack, ⟨rfl, rfl, rfl, rfl⟩⟩, fun index _ => rfl⟩
    exact (covers.reachesWith wellStacked reaches).2.sinks
  · intro fallback blankIsEmpty started ended next enters reaches fallsBack
    obtain ⟨trial, beneath, height, completes, owns, sink, covers⟩ := enters.covers wellStacked
    rw [← height] at reaches fallsBack
    obtain ⟨endedStacked, covers⟩ :=
      covers.reachesWith (enters.steps.wellStacked wellStacked) reaches
    exact covers.fallsBack endedStacked owns completes sink fallsBack
  · intro fallback blankIsEmpty started left next enters reaches abandons
    obtain ⟨trial, beneath, height, -, owns, sink, covers⟩ := enters.covers wellStacked
    rw [← height] at reaches abandons
    obtain ⟨leftStacked, covers⟩ :=
      covers.reachesWith (enters.steps.wellStacked wellStacked) reaches
    exact covers.abandons leftStacked owns sink abandons

/-! ### An empty trial

The trial of the alternative has no tokens, so its fallback starts as soon as it has been
entered. -/

namespace EmptyTrial

open Pattern

/-- The pattern `[alt:;x]`. -/
def pattern : Pattern where
  name := "alternative"
  source := "[alt:;x]"
  tokens := #[⟨.opens .square, "[", .start⟩, ⟨.text, "alt", .start⟩, ⟨.colon, ":", .start⟩,
    ⟨.semicolon, ";", .start⟩, ⟨.text, "x", .start⟩, ⟨.closes .square, "]", .start⟩]

def trial : Code := ⟨pattern, 3, 3⟩

def fallback : Code := ⟨pattern, 4, 5⟩

/-- The pattern before its first token. -/
def whole : Activation :=
  .enter (.shared (.whole pattern)) 0

/-- The pattern behind its only tag. -/
def read : Activation :=
  { whole with cursor := 6 }

def called : Configuration :=
  ⟨.fresh .standard 0, [{ read with
    tasks := [.callTag ⟨.alternative false, .start, .start [⟨trial, true⟩, ⟨fallback, true⟩]⟩] }]⟩

def started : Configuration :=
  ⟨{ Store.fresh .standard 0 with sinks := #[.fresh, .fresh] },
    [.enter ⟨trial, true, some (.settleTrial fallback false)⟩ 1, read]⟩

def fallenBack : Configuration :=
  ⟨.fresh .standard 0, [.enter (.shared fallback) 0, read]⟩

theorem argumentSpans_tag (context : Context) (same : context.pattern = pattern) :
    context.argumentSpans 2 5 "alt" = .ok [trial.span, fallback.span] := by
  have colon : pattern.skipBlanks 2 5 = 2 := by
    rw [Pattern.skipBlanks]
    rfl
  have token : pattern.tokens[2]? = some ⟨.colon, ":", .start⟩ := rfl
  have spans : pattern.splitTrimmed ⟨3, 5⟩ .semicolon = [trial.span, fallback.span] := by
    simp [Pattern.splitTrimmed, Pattern.split, Pattern.splitFrom, Pattern.trimSpan,
      Pattern.skipBlanks, Pattern.kindAt?, pattern]
    exact ⟨rfl, rfl⟩
  simp only [Context.argumentSpans, same, colon, token, spans]
  rfl

theorem readConstruct_tag (context : Context) (workspace : Workspace)
    (same : context.pattern = pattern) :
    context.readConstruct workspace 0 6 ⟨.opens .square, "[", .start⟩ =
      .ok (workspace, .tag (.alternative false) .start [⟨trial, true⟩, ⟨fallback, true⟩]) := by
  have first : pattern.skipBlanks 1 5 = 1 := by
    rw [Pattern.skipBlanks]
    rfl
  have token : pattern.tokens[1]? = some ⟨.text, "alt", .start⟩ := rfl
  have named : isName "alt" = true := by decide
  have spans := argumentSpans_tag context same
  have resolved : resolveTag "alt" 2 = .ok ⟨.alternative false, [.code, .code]⟩ := rfl
  simp [Context.readConstruct, Context.readTag, Context.callTag, same, first, token, named, spans,
    resolved, bind, Except.bind, pure, Except.pure]
  rfl

theorem steps_called : Steps .standard (.start .standard pattern 0) called := by
  have closes : pattern.scopeClose 0 = .ok 5 := by
    simp [Pattern.scopeClose, Pattern.closeFrom, pattern]
  exact .of_read rfl rfl (Context.constructStop_of_close rfl closes)
    (readConstruct_tag _ _ rfl) rfl

theorem steps_started : Steps .standard called started := ⟨rfl⟩

theorem steps_fallenBack : Steps .standard started fallenBack := ⟨rfl⟩

theorem entersTrial : EntersTrial .standard fallback false called started :=
  ⟨steps_started, _, _, rfl, rfl, rfl⟩

theorem fallsBack : FallsBack .standard 1 false started fallenBack :=
  ⟨steps_fallenBack, _, _, rfl, rfl, ⟨rfl, rfl⟩, rfl⟩

/-- Behind the empty trial the sinks are as before. -/
theorem isolated_called :
    Reachable .standard pattern 0 called ∧ Isolated .standard called ∧
      fallenBack.store.sinks = called.store.sinks := by
  have reachable : Reachable .standard pattern 0 called := .single steps_called
  have isolated := isolated_of_reachable reachable
  exact ⟨reachable, isolated,
    (isolated.fallbacks fallback false started started fallenBack entersTrial .refl fallsBack).1⟩

end EmptyTrial

end Configuration

end SeededText.Machine
