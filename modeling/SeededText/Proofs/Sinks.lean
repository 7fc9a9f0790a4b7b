import SeededText.Proofs.StackDiscipline

/-!
Contract: which sinks a step writes to.

A step writes to the sink of the activation on top, or of the one beneath if the activation on top
comes to its end. Other sinks are only added or removed at the end.

Owns: what tasks, constructs and completions write to, what a step does to stack and sinks.
Does not own: the order of sinks and activations (`SeededText.Proofs.StackDiscipline`).
-/

namespace SeededText.Machine

/-- Nothing is left to be done: the next step leaves the activation. -/
def Activation.IsAtEnd (activation : Activation) : Prop :=
  activation.tasks = [] ∧ activation.nextToken? = none

/-- Two stages of one activation, which may differ in what is left to be done. -/
structure Activation.Continues (later earlier : Activation) : Prop where
  code : later.code = earlier.code
  sink : later.sink = earlier.sink
  ownsSink : later.ownsSink = earlier.ownsSink
  completion? : later.completion? = earlier.completion?

theorem Activation.Continues.trans {latest later earlier : Activation}
    (second : latest.Continues later) (first : later.Continues earlier) :
    latest.Continues earlier :=
  ⟨second.code.trans first.code, second.sink.trans first.sink,
    second.ownsSink.trans first.ownsSink, second.completion?.trans first.completion?⟩

/-! ### Steps and sinks -/

section Handling

variable {context : Context} {store : Store} {sink depth : Nat} {progress : Progress}

/-- Of the sinks, at most one has changed. -/
structure Store.WritesTo (sink : Nat) (before after : Store) : Prop where
  size : after.sinks.size = before.sinks.size
  others : ∀ index, index ≠ sink → after.sinks[index]? = before.sinks[index]?

namespace Store.WritesTo

theorem same {before after : Store} (sinks : after.sinks = before.sinks) :
    WritesTo sink before after where
  size := congrArg Array.size sinks
  others index _ := congrArg (fun sinks : Array Output.Sink => sinks[index]?) sinks

theorem absorb {before : Store} (workspace : Workspace) (sinks : before.sinks = store.sinks) :
    WritesTo sink store (before.absorb sink workspace) where
  size := by simp [Store.absorb, sinks]
  others index other := by simp [Store.absorb, sinks, Ne.symm other]

/-- What a tag asks for is granted without writing. -/
theorem grant {before : Store} (writes : WritesTo sink store before) (request : Request) :
    WritesTo sink store (before.grant request).1 := by
  cases request <;> exact ⟨writes.size, writes.others⟩

end Store.WritesTo

namespace Context

theorem sinks_begin (construct : Construct) :
    (context.begin store depth construct).store.sinks = store.sinks := by
  cases construct <;> rfl

theorem writesTo_takeTurn : store.WritesTo sink (context.takeTurn store sink).store := by
  unfold takeTurn
  split
  · exact .same rfl
  · split
    · refine .absorb _ ?_
      rfl
    · exact .same rfl

theorem sinks_settlePlan (store : Store) (plan : ArgumentPlan) :
    (store.settlePlan plan).1.sinks = store.sinks :=
  (congrArg Store.sinks (store.settlePlan_eq plan)).trans rfl

theorem writesTo_resumeTag {call : TagCall}
    (resumed : context.resumeTag store sink call = .ok progress) :
    store.WritesTo sink progress.store := by
  have same := sinks_settlePlan store call.plan
  unfold resumeTag at resumed
  split at resumed
  · next settled =>
      rw [settled] at same
      cases resumed
      exact .same same
  · next settledStore done settled =>
      rw [settled] at same
      obtain ⟨outcome, performed, rfl⟩ := map_eq_ok.mp resumed
      exact .grant (.absorb outcome.workspace same) outcome.request

theorem writesTo_resumeSubroutine (call : SubroutineCall) :
    store.WritesTo sink (context.resumeSubroutine store call).store := by
  have same := sinks_settlePlan store call.plan
  unfold resumeSubroutine
  split <;> next settled =>
    rw [settled] at same
    exact .same same

theorem writesTo_replaceNext {before : Store} (replacement : Replacement)
    (sinks : before.sinks = store.sinks) :
    store.WritesTo sink (context.replaceNext before sink replacement).store := by
  unfold replaceNext
  split
  · exact .absorb _ sinks
  · exact .same sinks

/-- A task writes to no other sink than that of its activation. -/
theorem writesTo_resume {task : Task} (resumed : context.resume store sink task = .ok progress) :
    store.WritesTo sink progress.store := by
  cases task with
  | takeTurn =>
      cases resumed
      exact writesTo_takeTurn
  | callTag call => exact writesTo_resumeTag resumed
  | callSubroutine call =>
      cases resumed
      exact writesTo_resumeSubroutine call
  | findMatches regex code =>
      cases resumed
      refine writesTo_replaceNext _ ?_
      rfl
  | replaceMatches replacement =>
      cases resumed
      refine writesTo_replaceNext _ ?_
      rfl
  | runGenerated =>
      obtain ⟨code, -, rfl⟩ := map_eq_ok.mp resumed
      exact .same rfl
  | settleArithmetic isStatement position =>
      obtain ⟨workspace, -, rfl⟩ := map_eq_ok.mp resumed
      refine .absorb workspace ?_
      rfl
  | defineGenerated name parameters =>
      obtain ⟨workspace, -, rfl⟩ := map_eq_ok.mp resumed
      refine .absorb workspace ?_
      rfl

/-- What is done behind an activation writes to the sink of the one beneath it, if at all. -/
theorem writesTo_complete (context : Context) (completion : Completion) :
    store.WritesTo sink (context.complete store sink completion).store := by
  cases completion with
  | dropComparison | dropBindings => exact .same rfl
  | settleTrial fallback blankIsEmpty =>
      simp only [complete]
      split
      · exact .same rfl
      · refine .absorb _ ?_
        rfl

end Context

end Handling

/-- Sinks that are there before and after are the same, with at most one exception. -/
def SameExcept (sink : Nat) (before after : Array Output.Sink) : Prop :=
  ∀ index, index ≠ sink → index < before.size → index < after.size →
    after[index]? = before[index]?

namespace Configuration

section Stepping

variable {engine : Engine} {store : Store} {top : Activation} {beneath : List Activation}
  {progress : Progress} {reached : Configuration} {entries : List Entry}

/-- Sinks of code that is entered come behind those that are there. -/
theorem sinks_enterAll (entered : enterAll engine entries ⟨store, top :: beneath⟩ = .ok reached) :
    ∃ added : Array Output.Sink, added.size = entries.countP Entry.ownsSink ∧
      reached.store.sinks = store.sinks ++ added := by
  induction entries generalizing store top beneath with
  | nil =>
      cases entered
      exact ⟨#[], rfl, Array.append_empty.symm⟩
  | cons entry entries inductionHypothesis =>
      obtain ⟨higher, first, entered⟩ := bind_eq_ok.mp entered
      obtain ⟨-, rfl⟩ := enter_ok first
      obtain ⟨added, size, sinks⟩ := inductionHypothesis entered
      rw [sinks, Store.provide]
      split
      · next owns => exact ⟨#[.fresh] ++ added, by simp [size, owns, Nat.add_comm], by simp⟩
      · next shares => exact ⟨added, by simp [size, shares], rfl⟩

/-- What a step does to the stack and to the sinks. -/
inductive Effect (store : Store) (top : Activation) (beneath : List Activation)
    (reached : Configuration) : Prop where
  /-- The activation on top goes on, and code may be entered above it. -/
  | stays (above : List Activation) (renewed : Activation) (busy : ¬ top.IsAtEnd)
      (continues : renewed.Continues top) (stack : reached.stack = above ++ renewed :: beneath)
      (sinks : SameExcept top.sink store.sinks reached.store.sinks)
  | leavesBlock (dropped : List Activation) (busy : ¬ top.IsAtEnd) (some : dropped ≠ [])
      (stack : top :: beneath = dropped ++ reached.stack)
      (sinks : SameExcept top.sink store.sinks reached.store.sinks)
  /-- The activation beneath goes on, and code may be entered above it. -/
  | ends (above : List Activation) (renewed below : Activation) (others : List Activation)
      (ended : top.IsAtEnd) (lower : beneath = below :: others)
      (continues : renewed.Continues below) (stack : reached.stack = above ++ renewed :: others)
      (sinks : SameExcept below.sink store.sinks reached.store.sinks)
  | finishes (ended : top.IsAtEnd) (lower : beneath = []) (stack : reached.stack = [])

theorem effect_settle {changed : Activation} (busy : ¬ top.IsAtEnd)
    (continues : changed.Continues top) (writes : store.WritesTo top.sink progress.store)
    (ready : Ready progress.store { changed with elseArmed := progress.elseArmed } beneath
      progress.move.entries)
    (ends : progress.move = .leaveBlock → changed.tasks = [])
    (settled : settle engine changed beneath progress = .ok reached) :
    Effect store top beneath reached := by
  unfold settle at settled
  have renewed : Activation.Continues { changed with elseArmed := progress.elseArmed } top :=
    ⟨continues.code, continues.sink, continues.ownsSink, continues.completion?⟩
  cases move : progress.move with
  | enter entries =>
      rw [move] at settled
      obtain ⟨above, stack, -⟩ := stack_enterAll settled
      obtain ⟨added, -, sinks⟩ := sinks_enterAll settled
      refine .stays above _ busy renewed stack ?_
      intro index other inside _
      rw [sinks, Array.getElem?_append_left (by rwa [writes.size]), writes.others index other]
  | leaveBlock =>
      rw [move] at ready settled
      cases settled
      cases repeaters : progress.store.repeaters with
      | nil =>
          simp only [leaveBlock, repeaters]
          refine .stays [] _ busy renewed rfl ?_
          intro index other _ _
          exact writes.others index other
      | cons repeater outer =>
          obtain ⟨above, base, lower, stack, tasks, idle, left⟩ := ready.leaveBlock_eq repeaters
          rw [left]
          cases above with
          | nil =>
              obtain ⟨rfl, -⟩ := List.cons.inj stack
              simp [ends move] at tasks
          | cons first dropped =>
              refine .leavesBlock (top :: dropped) busy (by simp)
                (congrArg (top :: ·) (List.cons.inj stack).2) ?_
              intro index other _ inside
              simp only [Store.behindBlock, Array.take_eq_extract, Array.size_extract] at inside ⊢
              rw [Array.getElem?_extract, if_pos inside, Nat.zero_add, writes.others index other]

/-- What is entered behind an activation brings no sink with it. -/
theorem move_complete_shared (context : Context) (store : Store) (sink : Nat)
    (completion : Completion) :
    ∃ entries, (context.complete store sink completion).move = .enter entries ∧
      entries.countP Entry.ownsSink = 0 := by
  rcases move_complete context store sink completion with move | ⟨fallback, -, move⟩
  · exact ⟨_, move, rfl⟩
  · exact ⟨_, move, rfl⟩

theorem sinks_release {index : Nat} (inside : index < (release store top).sinks.size) :
    (release store top).sinks[index]? = store.sinks[index]? := by
  unfold release at inside ⊢
  cases owns : top.ownsSink with
  | false => rfl
  | true =>
      simp only [owns, if_true, Array.size_pop] at inside ⊢
      rw [Array.getElem?_pop, if_pos inside]

theorem effect_leave (ended : top.IsAtEnd)
    (left : leave engine store top beneath = .ok reached) : Effect store top beneath reached := by
  unfold leave at left
  split at left
  · next completion below others completes =>
      have writes : (release store top).WritesTo below.sink _ :=
        Context.writesTo_complete (below.context engine (release store top)) completion
      obtain ⟨entries, move, noSinks⟩ := move_complete_shared
        (below.context engine (release store top)) (release store top) below.sink completion
      simp only [settle, shift, move] at left
      obtain ⟨above, stack, -⟩ := stack_enterAll left
      obtain ⟨added, size, sinks⟩ := sinks_enterAll left
      rw [noSinks] at size
      rw [Array.eq_empty_of_size_eq_zero size, Array.append_empty] at sinks
      refine .ends above _ below others ended rfl ?_ stack ?_
      · exact ⟨rfl, rfl, rfl, rfl⟩
      intro index other _ inside
      rw [sinks, writes.size] at inside
      rw [sinks, writes.others index other, sinks_release inside]
  · next beneath _ _ uncompleted =>
      cases left
      cases beneath with
      | nil => exact .finishes ended rfl rfl
      | cons below others =>
          refine .ends [] below below others ended rfl ⟨rfl, rfl, rfl, rfl⟩ rfl ?_
          intro index _ _ inside
          exact sinks_release inside

theorem effect_step (wellStacked : WellStacked engine ⟨store, top :: beneath⟩)
    (stepped : step engine store top beneath = .ok reached) :
    Effect store top beneath reached := by
  have ordered := wellStacked.ordered
  cases stepped_of_step (ordered.tasks top List.mem_cons_self) stepped with
  | resume task progress tasks resumed settled =>
      have fits := wellStacked.fits_resume tasks resumed
      refine effect_settle ?_ ?_ (Context.writesTo_resume resumed)
        (fits.ready_renew ordered top.cursor) ?_ settled
      · rintro ⟨idle, -⟩
        simp [tasks] at idle
      · exact ⟨rfl, rfl, rfl, rfl⟩
      · intro move
        simp [fits.ends move]
  | leave idle ended left => exact effect_leave ⟨idle, ended⟩ left
  | read token stop workspace construct idle next stopped reading settled =>
      have fits := wellStacked.fits_begin idle workspace construct
      refine effect_settle ?_ ?_ ?_ (fits.ready_renew ordered stop) ?_ settled
      · rintro ⟨-, ended⟩
        simp [next] at ended
      · exact ⟨rfl, rfl, rfl, rfl⟩
      · have writes : store.WritesTo top.sink (store.absorb top.sink workspace) :=
          .absorb workspace rfl
        exact ⟨(congrArg Array.size (Context.sinks_begin construct)).trans writes.size,
          fun index other => by rw [Context.sinks_begin, writes.others index other]⟩
      · intro move
        simp [fits.ends move]

end Stepping

end Configuration

end SeededText.Machine
