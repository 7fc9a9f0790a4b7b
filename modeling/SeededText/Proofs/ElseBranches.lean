import SeededText.Proofs.OpenBlocks
import SeededText.Proofs.PassedArguments

/-!
Contract: an `else` runs if the last test of its own activation failed.

A run is followed by a chronicle: for each activation of the stack what it has itself performed of
tests of flags and of `else`, and whether the body ran. What an activation does not keep is written
down beside it, so that its one bit can be compared with all that it has done. Activations that come
and go above it have chronicles of their own.

Owns: chronicles of runs, that the bit of each activation is what its chronicle says, when an `else`
runs.
Does not own: the arguments of tags (`SeededText.Proofs.PassedArguments`), what steps do to the
stack (`SeededText.Proofs.Sinks`).
-/

namespace SeededText.Machine

open Pattern

/-! ### Chronicles -/

/-- A test of a flag or an `else` that an activation has performed, and whether its body ran. -/
inductive Deed where
  | tested (ran : Bool)
  | otherwise (ran : Bool)
deriving DecidableEq, Repr

/-- The latest of the deeds is a test whose body did not run. -/
def lastTestMissed (deeds : List Deed) : Bool :=
  deeds.head? == some (.tested false)

def TagOperation.deed? (ran : Bool) : TagOperation → Option Deed
  | .whenFlag _ => some (.tested ran)
  | .otherwise => some (.otherwise ran)
  | _ => none

/-- What going on with a task performs: nothing as long as an argument is to be made. -/
def Task.deed? (store : Store) (ran : Bool) : Task → Option Deed
  | .callTag call =>
      if (store.settlePlan call.plan).2.2.isNone then call.operation.deed? ran else none
  | _ => none

/-- What the activation on top performs in a step. A body runs if it is put on the stack. -/
def Configuration.deed? (before after : Configuration) : Option Deed := do
  let top ← before.stack.head?
  let task ← top.tasks.head?
  task.deed? before.store (decide (before.stack.length < after.stack.length))

/-- The deeds of all activations of a stack of some height: what has been entered has done nothing,
and what is gone is forgotten. -/
def deedsOfHeight (height : Nat) (deeds : List (List Deed)) : List (List Deed) :=
  List.replicate (height - deeds.length) [] ++ deeds.drop (deeds.length - height)

/-- What each activation of the stack has done since it was entered, the latest first. -/
inductive Chronicle (engine : Engine) (pattern : Pattern) (seed : UInt64) :
    Configuration → List (List Deed) → Prop
  | start : Chronicle engine pattern seed (.start engine pattern seed) [[]]
  /-- The activation on top has done something. -/
  | goesOn {store : Store} {top : Activation} {beneath : List Activation} {own : List Deed}
      {others : List (List Deed)} {reached : Configuration}
      (before : Chronicle engine pattern seed ⟨store, top :: beneath⟩ (own :: others))
      (busy : ¬ top.IsAtEnd)
      (steps : Configuration.Steps engine ⟨store, top :: beneath⟩ reached) :
      Chronicle engine pattern seed reached (deedsOfHeight reached.stack.length
        ((((Configuration.mk store (top :: beneath)).deed? reached).toList ++ own) :: others))
  /-- The activation on top has gone. -/
  | ends {store : Store} {top : Activation} {beneath : List Activation} {own : List Deed}
      {others : List (List Deed)} {reached : Configuration}
      (before : Chronicle engine pattern seed ⟨store, top :: beneath⟩ (own :: others))
      (ended : top.IsAtEnd)
      (steps : Configuration.Steps engine ⟨store, top :: beneath⟩ reached) :
      Chronicle engine pattern seed reached (deedsOfHeight reached.stack.length others)

/-- The activation lets an `else` run just if its last test was missed. -/
def Activation.Awaits (activation : Activation) (deeds : List Deed) : Prop :=
  activation.elseArmed = lastTestMissed deeds

theorem Activation.Awaits.context {activation : Activation} {own : List Deed}
    (awaits : activation.Awaits own) (engine : Engine) (store : Store) :
    (activation.context engine store).elseArmed = lastTestMissed own :=
  awaits

/-! ### Histories of a stack -/

section Heights

variable {stack base : List Activation} {deeds : List (List Deed)}

/-- Activations that have just been entered have done nothing. -/
theorem awaits_entered {above : List Activation}
    (unarmed : ∀ activation ∈ above, activation.elseArmed = false)
    (awaits : List.Forall₂ Activation.Awaits base deeds) :
    List.Forall₂ Activation.Awaits (above ++ base)
      (deedsOfHeight (above ++ base).length deeds) := by
  have height : (above ++ base).length = above.length + deeds.length := by
    rw [List.length_append, awaits.length_eq]
  rw [deedsOfHeight, height, Nat.add_sub_cancel, Nat.sub_eq_zero_of_le (Nat.le_add_left _ _),
    List.drop_zero]
  clear height
  induction above with
  | nil => exact awaits
  | cons first above inductionHypothesis =>
      obtain ⟨unarmed, others⟩ := List.forall_mem_cons.mp unarmed
      exact .cons unarmed (inductionHypothesis others)

/-- What is left of a stack keeps what it has done. -/
theorem awaits_left (left : stack <:+ base)
    (awaits : List.Forall₂ Activation.Awaits base deeds) :
    List.Forall₂ Activation.Awaits stack (deedsOfHeight stack.length deeds) := by
  obtain ⟨dropped, rfl⟩ := left
  have height : deeds.length = dropped.length + stack.length := by
    rw [← awaits.length_eq, List.length_append]
  have remaining := List.forall₂_drop dropped.length awaits
  rw [List.drop_left] at remaining
  rw [deedsOfHeight, height, Nat.add_sub_cancel, Nat.sub_eq_zero_of_le (Nat.le_add_left _ _)]
  exact remaining

end Heights

/-! ### Tags -/

/-- Code is to run for the request. -/
def Request.entersCode : Request → Bool
  | .nothing | .leaveBlock => false
  | .run _ | .attempt .. | .compare .. => true

theorem Store.isEmpty_entries_grant (store : Store) (request : Request) :
    (store.grant request).2.entries.isEmpty = !request.entersCode := by
  cases request <;> rfl

namespace Invocation

section Arming

variable (invocation : Invocation) (workspace : Workspace)

/-- Whether an `else` may run is left as it was. -/
def KeepsArmed (outcome : Outcome) : Prop :=
  outcome.elseArmed = invocation.context.elseArmed

@[simp] theorem keepsArmed_ask (request : Request) :
    invocation.KeepsArmed (invocation.ask workspace request) := rfl

@[simp] theorem keepsArmed_stay : invocation.KeepsArmed (invocation.stay workspace) := rfl

@[simp] theorem keepsArmed_write (text : String) :
    invocation.KeepsArmed (invocation.write workspace text) := rfl

@[simp] theorem keepsArmed_writeInteger (number : Int) :
    invocation.KeepsArmed (invocation.writeInteger workspace number) := rfl

@[simp] theorem keepsArmed_onSink (change : Output.Sink → Output.Sink) :
    invocation.KeepsArmed (invocation.onSink workspace change) := rfl

@[simp] theorem keepsArmed_runIf (condition : Bool) (code : Code) :
    invocation.KeepsArmed (invocation.runIf workspace condition code) := rfl

/-- Only tests of flags and `else` decide whether an `else` may run. -/
theorem keepsArmed_perform {operation : TagOperation}
    (other : ∀ ran, operation.deed? ran = none) :
    Yields invocation.KeepsArmed (invocation.perform workspace operation) := by
  cases operation with
  | whenFlag defined => cases other false
  | otherwise => cases other false
  | _ =>
      simp only [perform, randomNumber, synchronize, controlSynchronizer, reseedSynchronizer,
        whenTurn, whenNth, alternative, matchedText, capturedGroup, argument, setNumberFormat,
        setCapitalization, inferCapitalization, openChannel, closeChannel, placeTarget,
        changeTarget, setMarker, distance, randomCharacters, setFlags, compareTexts, whenCompared,
        leaveBlock, callHook]
      repeat' first | refine yields_bind fun value => ?_ | split
      all_goals simp

/-- A tag arms what is performed next just if it is a test that it does not run the body of. -/
theorem lastTestMissed_perform {operation : TagOperation} {own : List Deed}
    (armed : invocation.context.elseArmed = lastTestMissed own) :
    Yields (fun outcome => outcome.elseArmed =
        lastTestMissed ((operation.deed? outcome.request.entersCode).toList ++ own))
      (invocation.perform workspace operation) := by
  cases operation with
  | whenFlag defined =>
      refine yields_bind fun name => yields_bind fun body => ?_
      rw [yields_pure]
      cases workspace.flags.contains name == defined <;> rfl
  | otherwise =>
      refine yields_bind fun body => ?_
      rw [yields_pure]
      cases armed : invocation.context.elseArmed <;> rfl
  | _ =>
      intro outcome performed
      exact (invocation.keepsArmed_perform workspace (fun _ => rfl) outcome performed).trans armed

end Arming

end Invocation

namespace Context

variable {context : Context} {store : Store} {sink depth : Nat} {progress : Progress}

theorem elseArmed_begin (construct : Construct) :
    (context.begin store depth construct).elseArmed = context.elseArmed := by
  cases construct <;> rfl

/-- Going on with a task arms what is performed next just if it performs a test that it does not
run the body of. -/
theorem lastTestMissed_resume {task : Task} {own : List Deed}
    (armed : context.elseArmed = lastTestMissed own)
    (resumed : context.resume store sink task = .ok progress) :
    progress.elseArmed =
      lastTestMissed ((task.deed? store !progress.move.entries.isEmpty).toList ++ own) := by
  cases task with
  | callTag call =>
      unfold resume resumeTag at resumed
      rw [Task.deed?]
      dsimp only at resumed ⊢
      split at resumed
      · next settled =>
          cases resumed
          simpa [settled, gather] using armed
      · next settled =>
          obtain ⟨outcome, performed, rfl⟩ := map_eq_ok.mp resumed
          have missed := Invocation.lastTestMissed_perform _ _ armed outcome performed
          simpa [settled, Store.follow, Store.isEmpty_entries_grant] using missed
  | takeTurn =>
      cases resumed
      refine Eq.trans ?_ armed
      unfold takeTurn
      split
      · rfl
      · split <;> rfl
  | callSubroutine call =>
      cases resumed
      refine Eq.trans ?_ armed
      unfold resumeSubroutine
      split <;> rfl
  | findMatches regex code | replaceMatches replacement =>
      cases resumed
      refine Eq.trans ?_ armed
      unfold replaceNext
      split <;> rfl
  | runGenerated | settleArithmetic isStatement position | defineGenerated name parameters =>
      obtain ⟨made, -, rfl⟩ := map_eq_ok.mp resumed
      exact armed

end Context

/-! ### Steps -/

namespace Configuration

section Stepping

variable {engine : Engine} {store : Store} {top : Activation} {beneath : List Activation}
  {progress : Progress} {reached : Configuration} {entries : List Entry}

/-- What is entered is not armed. -/
theorem unarmed_enterAll
    (entered : enterAll engine entries ⟨store, top :: beneath⟩ = .ok reached) :
    ∃ above, reached.stack = above ++ top :: beneath ∧
      ∀ activation ∈ above, activation.elseArmed = false := by
  induction entries generalizing store top beneath with
  | nil =>
      cases entered
      exact ⟨[], rfl, by simp⟩
  | cons entry entries inductionHypothesis =>
      obtain ⟨higher, first, entered⟩ := bind_eq_ok.mp entered
      obtain ⟨-, rfl⟩ := enter_ok first
      obtain ⟨above, stack, unarmed⟩ := inductionHypothesis entered
      refine ⟨above ++ [.enter entry (store.provide entry top.sink).2], ?_, ?_⟩
      · rw [stack, List.append_assoc]
        rfl
      · intro activation member
        rcases List.mem_append.mp member with inside | same
        · exact unarmed activation inside
        · rw [List.mem_singleton.mp same]
          rfl

/-- The stack grows just if code is entered. -/
theorem height_settle (settled : settle engine top beneath progress = .ok reached) :
    decide ((top :: beneath).length < reached.stack.length) = !progress.move.entries.isEmpty := by
  unfold settle shift at settled
  split at settled
  · next entries move =>
      rw [move, length_enterAll settled, List.length_cons]
      cases entries with
      | nil => exact decide_eq_false (by simp)
      | cons entry entries => exact decide_eq_true (by simp)
  · next move =>
      cases settled
      rw [move]
      refine decide_eq_false (Nat.not_lt.mpr ?_)
      exact (leaveBlock_suffix _).length_le

/-- Changing the stack keeps what is known of the activations that stay. -/
theorem awaits_settle {deeds : List (List Deed)}
    (awaits : List.Forall₂ Activation.Awaits
      ({ top with elseArmed := progress.elseArmed } :: beneath) deeds)
    (settled : settle engine top beneath progress = .ok reached) :
    List.Forall₂ Activation.Awaits reached.stack (deedsOfHeight reached.stack.length deeds) := by
  unfold settle shift at settled
  split at settled
  · obtain ⟨above, stack, unarmed⟩ := unarmed_enterAll settled
    rw [stack]
    exact awaits_entered unarmed awaits
  · cases settled
    exact awaits_left (leaveBlock_suffix _) awaits

/-- What the activation on top performs is added to what it has done. -/
theorem awaits_goesOn {own : List Deed} {others : List (List Deed)}
    (short : top.tasks.length ≤ 1) (busy : ¬ top.IsAtEnd)
    (awaits : List.Forall₂ Activation.Awaits (top :: beneath) (own :: others))
    (stepped : step engine store top beneath = .ok reached) :
    List.Forall₂ Activation.Awaits reached.stack (deedsOfHeight reached.stack.length
      ((((Configuration.mk store (top :: beneath)).deed? reached).toList ++ own) :: others)) := by
  obtain ⟨armed, lower⟩ := List.forall₂_cons.mp awaits
  -- Only a task may perform something; reading a construct leaves the bit as it is.
  cases stepped_of_step short stepped with
  | resume task progress tasks resumed settled =>
      have deed : (Configuration.mk store (top :: beneath)).deed? reached =
          task.deed? store !progress.move.entries.isEmpty := by
        rw [← height_settle settled]
        simp [deed?, tasks]
      rw [deed]
      have renewed := Context.lastTestMissed_resume (armed.context engine store) resumed
      exact awaits_settle (.cons renewed lower) settled
  | leave idle ended left => exact absurd ⟨idle, ended⟩ busy
  | read token stop workspace construct idle next stopped reading settled =>
      have deed : (Configuration.mk store (top :: beneath)).deed? reached = none := by
        simp [deed?, idle]
      rw [deed]
      refine awaits_settle (.cons ?_ lower) settled
      exact (Context.elseArmed_begin construct).trans (armed.context engine store)

/-- What is beneath an activation that is gone has done nothing meanwhile. -/
theorem awaits_leave {own : List Deed} {others : List (List Deed)}
    (awaits : List.Forall₂ Activation.Awaits (top :: beneath) (own :: others))
    (left : leave engine store top beneath = .ok reached) :
    List.Forall₂ Activation.Awaits reached.stack (deedsOfHeight reached.stack.length others) := by
  obtain ⟨-, lower⟩ := List.forall₂_cons.mp awaits
  unfold leave at left
  split at left
  · next completion below rest completes =>
      -- A completion is carried out by the activation beneath, but it is no deed of it.
      obtain ⟨first, behind, armed, lowest, rfl⟩ := List.forall₂_cons_left_iff.mp lower
      refine awaits_settle (.cons ?_ lowest) left
      exact (Context.elseArmed_complete _ _ _ completion).trans (armed.context engine _)
  · cases left
    exact awaits_left (List.suffix_refl _) lower

end Stepping

end Configuration

/-! ### Runs -/

section Runs

variable {engine : Engine} {pattern : Pattern} {seed : UInt64} {configuration : Configuration}
  {deeds : List (List Deed)}

namespace Chronicle

theorem reachable (chronicle : Chronicle engine pattern seed configuration deeds) :
    Configuration.Reachable engine pattern seed configuration := by
  induction chronicle with
  | start => exact .refl
  | goesOn _ _ steps inductionHypothesis => exact .tail inductionHypothesis steps
  | ends _ _ steps inductionHypothesis => exact .tail inductionHypothesis steps

/-- Throughout a run each activation is armed just if its own last test was missed. -/
theorem awaits (chronicle : Chronicle engine pattern seed configuration deeds) :
    List.Forall₂ Activation.Awaits configuration.stack deeds := by
  induction chronicle with
  | start => exact .cons rfl .nil
  | @goesOn store top beneath own others reached before busy steps inductionHypothesis =>
      have wellStacked := Configuration.Reachable.wellStacked before.reachable
      obtain ⟨stepped⟩ := steps
      exact Configuration.awaits_goesOn (wellStacked.ordered.tasks top List.mem_cons_self) busy
        inductionHypothesis stepped
  | @ends store top beneath own others reached before ended steps inductionHypothesis =>
      obtain ⟨stepped⟩ := steps
      rw [Configuration.step_of_end ended.1 ended.2] at stepped
      exact Configuration.awaits_leave inductionHypothesis stepped

end Chronicle

/-- Every run has a chronicle. -/
theorem Configuration.Reachable.exists_chronicle
    (reachable : Reachable engine pattern seed configuration) :
    ∃ deeds, Chronicle engine pattern seed configuration deeds := by
  induction reachable with
  | refl => exact ⟨[[]], .start⟩
  | @tail before reached _ steps inductionHypothesis =>
      obtain ⟨deeds, chronicle⟩ := inductionHypothesis
      obtain @⟨store, top, beneath, _, stepped⟩ := steps
      obtain ⟨own, others, -, -, rfl⟩ := List.forall₂_cons_left_iff.mp chronicle.awaits
      by_cases ended : top.IsAtEnd
      · exact ⟨_, .ends chronicle ended ⟨stepped⟩⟩
      · exact ⟨_, .goesOn chronicle ended ⟨stepped⟩⟩

end Runs

/-! ### The bodies of `else` -/

section Bodies

variable {engine : Engine} {store settled : Store} {top : Activation} {beneath : List Activation}
  {call : TagCall} {body : Code}

/-- The tag is done, and the code comes next: it is put on the stack, or ends the run if the stack
is as high as it may be. -/
inductive Configuration.RunsNext (engine : Engine) (store : Store) (top : Activation)
    (beneath : List Activation) (body : Code) : Prop
  | enters (reached : Configuration) (steps : Steps engine ⟨store, top :: beneath⟩ reached)
      (stack : reached.stack = .enter (.shared body) top.sink ::
        { top with tasks := [], elseArmed := false } :: beneath)
  | overflows (full : engine.settings.maxStackDepth ≤ beneath.length + 1)
      (ends : Ends engine ⟨store, top :: beneath⟩ (some top.overflow))

/-- The tag is done, and nothing else comes to the stack. -/
def Configuration.SkipsNext (engine : Engine) (store : Store) (top : Activation)
    (beneath : List Activation) : Prop :=
  ∃ reached, Steps engine ⟨store, top :: beneath⟩ reached ∧
    reached.stack = { top with tasks := [], elseArmed := false } :: beneath

theorem Context.resume_otherwise {context : Context} {sink : Nat}
    (operation : call.operation = .otherwise)
    (passed : store.settlePlan call.plan = (settled, [.code body], none)) :
    context.resume store sink (.callTag call) =
      .ok ⟨settled, .enter (if context.elseArmed then [.shared body] else []), false, none⟩ := by
  have performed : (Invocation.mk context call.position [.code body]).perform
      (settled.workspace sink) .otherwise =
        .ok ⟨settled.workspace sink, if context.elseArmed then .run body else .nothing, false⟩ :=
    rfl
  simp only [resume, resumeTag]
  rw [passed]
  dsimp only
  rw [operation, performed]
  simp only [Except.map, Store.follow, Store.absorb_workspace]
  cases context.elseArmed <;> rfl

/-- An `else` runs its body just if the activation is armed. -/
theorem Configuration.step_of_otherwise (tasks : top.tasks = [.callTag call])
    (operation : call.operation = .otherwise)
    (passed : store.settlePlan call.plan = (settled, [.code body], none)) :
    if top.elseArmed then RunsNext engine store top beneath body
    else SkipsNext engine store top beneath := by
  have stepped : step engine store top beneath =
      enterAll engine (if top.elseArmed then [.shared body] else [])
        ⟨settled, { top with tasks := [], elseArmed := false } :: beneath⟩ := by
    rw [step_of_task tasks, Context.resume_otherwise operation passed]
    rfl
  cases armed : top.elseArmed with
  | false =>
      rw [armed] at stepped
      exact ⟨_, ⟨stepped⟩, rfl⟩
  | true =>
      rw [armed, if_pos rfl, enterAll_singleton, enter] at stepped
      by_cases full : engine.settings.maxStackDepth ≤ beneath.length + 1
      · rw [if_pos full] at stepped
        exact .overflows full (.failed stepped)
      · rw [if_neg full] at stepped
        exact .enters _ ⟨stepped⟩ rfl

/-- An `else` has one argument, which is code. -/
theorem TagCall.exists_body {pattern : Pattern} {arguments : List Argument}
    (standsIn : (Task.callTag call).StandsIn pattern) (operation : call.operation = .otherwise)
    (passed : store.settlePlan call.plan = (settled, arguments, none)) :
    ∃ body, arguments = [.code body] := by
  obtain ⟨codes, signature, passes⟩ := TagCall.exists_isPassed standsIn passed
  obtain ⟨name, -, resolved⟩ := passes.written
  obtain ⟨listed, takes⟩ := passed_of_resolveTag resolved passes.fits
  rw [← passes.operation, operation] at listed
  rw [List.mem_singleton.mp listed] at takes
  cases takes with
  | code body others =>
      cases others
      exact ⟨body, rfl⟩

end Bodies

/-- Each activation has done what is written down for it, and whatever `else` comes next runs its
body just if the last test or `else` of its own activation was a test whose body did not run. -/
structure Configuration.ElseFollows (engine : Engine) (configuration : Configuration)
    (deeds : List (List Deed)) : Prop where
  height : deeds.length = configuration.stack.length
  runs : ∀ source call arguments, configuration.Performs source call arguments →
    call.operation = .otherwise →
      ∃ store top beneath own others body, configuration = ⟨store, top :: beneath⟩ ∧
        deeds = own :: others ∧ arguments = [.code body] ∧
          if lastTestMissed own then RunsNext engine store top beneath body
          else SkipsNext engine store top beneath

/-- In every configuration of a run, an `else` that is carried out runs its body just if the latest
of the tests of flags and `else` that its own activation has carried out was a test whose body did
not run. What any other activation has done makes no difference. -/
theorem Configuration.Reachable.else_follows_own_test {bare engine : Engine}
    {prelude : List PreludePattern} {pattern : Pattern} {seed : UInt64}
    {configuration : Configuration} (plain : bare.subroutines = .empty)
    (made : bare.withPrelude prelude = .ok engine)
    (reachable : Reachable engine pattern seed configuration) :
    (∃ deeds, Chronicle engine pattern seed configuration deeds) ∧
      ∀ deeds, Chronicle engine pattern seed configuration deeds →
        configuration.ElseFollows engine deeds := by
  have keyed : engine.subroutines.Keyed :=
    subroutines_withPrelude Subroutines.kept_keyed (plain ▸ Subroutines.keyed_empty) made
  have standsIn := Reachable.tasks Task.inherited_standsIn Subroutines.kept_keyed keyed reachable
  have wellStacked := Reachable.wellStacked reachable
  refine ⟨Reachable.exists_chronicle reachable, fun deeds chronicle => ?_⟩
  refine ⟨chronicle.awaits.length_eq.symm, ?_⟩
  rintro _ call arguments @⟨store, settled, top, beneath, _, tasks, _, first, passed⟩ operation
  obtain ⟨body, rfl⟩ :=
    TagCall.exists_body (standsIn top List.mem_cons_self _ (by simp [first])) operation passed
  obtain ⟨own, others, awaits, -, rfl⟩ := List.forall₂_cons_left_iff.mp chronicle.awaits
  have short : top.tasks.length ≤ 1 := wellStacked.ordered.tasks top List.mem_cons_self
  have only : top.tasks = [.callTag call] := by
    rw [first, List.length_cons] at short
    rw [first, List.eq_nil_of_length_eq_zero (by omega : tasks.length = 0)]
  refine ⟨store, top, beneath, own, others, body, rfl, rfl, rfl, ?_⟩
  rw [← awaits]
  exact step_of_otherwise only operation passed

/-! ### A test in between -/

namespace TestBetween

open SeededText.Machine.Configuration

/-- The pattern `[ifdef:g;X]{[ifndef:g;Y]}[else:E]`. The item of the block has its own test, whose
body runs. -/
def pattern : Pattern :=
  (Pattern.compile "test between" "[ifdef:g;X]\x7b[ifndef:g;Y]\x7d[else:E]").toOption.getD default

/-- After eleven steps the `else` is carried out next, by an activation that is armed. -/
theorem exists_performs : ∃ (configuration : Configuration) (top : Activation) (call : TagCall)
    (arguments : List Argument), Reachable .standard pattern 0 configuration ∧
      configuration.Performs top.pattern call arguments ∧ call.operation = .otherwise ∧
        configuration.stack.head? = some top ∧ top.elseArmed = true := by
  have observed : ((after .standard 11 (start .standard pattern 0)).bind passed?).map
      (fun (top, task, _) => (task.operation?, top.elseArmed)) =
      some (some .otherwise, true) := by decide +kernel
  obtain ⟨⟨top, task, arguments⟩, found, seen⟩ := Option.map_eq_some_iff.mp observed
  obtain ⟨configuration, steps, passed⟩ := Option.bind_eq_some_iff.mp found
  obtain ⟨operation, armed⟩ := Prod.mk.inj seen
  obtain ⟨store, beneath, tasks, plan, settled, rfl, -⟩ := exists_of_passed? passed
  cases task with
  | callTag call =>
      exact ⟨_, top, call, arguments, reaches_of_after steps, performs_of_passed? passed,
        Option.some.inj operation, rfl, armed⟩
  | _ => cases operation

/-- The last test of the activation itself was missed, so that the body of the `else` runs. -/
theorem else_follows_first_test : ∃ (configuration : Configuration) (call : TagCall)
    (arguments : List Argument) (own : List Deed) (others : List (List Deed)) (source : Pattern),
      configuration.Performs source call arguments ∧ call.operation = .otherwise ∧
        Chronicle .standard pattern 0 configuration (own :: others) ∧ lastTestMissed own = true ∧
          configuration.ElseFollows .standard (own :: others) := by
  obtain ⟨configuration, top, call, arguments, reachable, performs, operation, onTop, armed⟩ :=
    exists_performs
  have made : Engine.standard.withPrelude [] = .ok .standard := rfl
  obtain ⟨⟨deeds, chronicle⟩, follows⟩ := Reachable.else_follows_own_test rfl made reachable
  obtain ⟨beneath, stack⟩ := List.head?_eq_some_iff.mp onTop
  have awaits := chronicle.awaits
  rw [stack] at awaits
  obtain ⟨own, others, first, -, rfl⟩ := List.forall₂_cons_left_iff.mp awaits
  exact ⟨configuration, call, arguments, own, others, top.pattern, performs, operation, chronicle,
    first.symm.trans armed, follows _ chronicle⟩

end TestBetween

end SeededText.Machine
