import SeededText.Proofs.OpenBlocks
import SeededText.Proofs.PassedArguments

/-!
Contract: the arguments that code sees.

Arguments of a call are in force from the entering of the body of the subroutine to its end, on top
of those that were in force before. A name is looked up on top, so among the arguments of the
innermost body under way. Code that has been passed as an argument makes no difference: it sees what
is in force where it is run, and not what was in force where it was written.

Owns: the bodies under way and their arguments, what is in force for code that is entered.
Does not own: how arguments are passed (`SeededText.Proofs.PassedArguments`).
-/

namespace SeededText.Machine

open SeededText.Machine.Configuration

/-! ### Bodies -/

/-- The body of a subroutine, if it is what the activation runs. -/
def Activation.body? (activation : Activation) : Option Code :=
  if activation.drops .dropBindings then some activation.code else none

/-- The bodies that are under way, the innermost first. -/
def bodiesOf (stack : List Activation) : List Code :=
  stack.filterMap Activation.body?

/-- Arguments of a call as it is written, for the body of the subroutine that it calls. -/
def BindsFor (body : Code) (bindings : Table String Argument) : Prop :=
  ∃ pattern position codes subroutine arguments,
    IsSubroutineCall pattern position codes subroutine ∧
      List.Forall₂ Argument.Fits (subroutine.plan codes) arguments ∧ subroutine.body = body ∧
        subroutine.bind arguments = bindings

section Bodies

variable {stack above beneath : List Activation} {later earlier : Activation}

theorem Activation.Continues.body? (continues : later.Continues earlier) :
    later.body? = earlier.body? := by
  unfold Activation.body? Activation.drops
  rw [continues.completion?, continues.code]

theorem length_bodiesOf (stack : List Activation) :
    (bodiesOf stack).length = stack.countP (Activation.drops .dropBindings) := by
  induction stack with
  | nil => rfl
  | cons top beneath inductionHypothesis =>
      unfold bodiesOf at inductionHypothesis ⊢
      rw [List.filterMap_cons, Activation.body?]
      cases drops : top.drops .dropBindings with
      | false =>
          rw [List.countP_cons_of_neg (by simp [drops])]
          exact inductionHypothesis
      | true =>
          rw [List.countP_cons_of_pos drops]
          exact congrArg Nat.succ inductionHypothesis

theorem bodiesOf_append : bodiesOf (above ++ beneath) = bodiesOf above ++ bodiesOf beneath :=
  List.filterMap_append

theorem bodiesOf_suffix (suffix : beneath <:+ stack) : bodiesOf beneath <:+ bodiesOf stack := by
  obtain ⟨above, rfl⟩ := suffix
  exact bodiesOf_append ▸ List.suffix_append _ _

theorem bodiesOf_renewed (continues : later.Continues earlier) :
    bodiesOf (later :: beneath) = bodiesOf (earlier :: beneath) := by
  unfold bodiesOf
  rw [List.filterMap_cons, List.filterMap_cons, continues.body?]

end Bodies

/-! ### What steps do to bodies and bindings -/

/-- What a step does to the bodies under way and to the bindings in force: it drops some of both, or
enters one body with its bindings. -/
inductive Rescopes (bodies : List Code) (bindings : List (Table String Argument)) :
    List Code → List (Table String Argument) → Prop
  | drops {fewer : List Code} {lower : List (Table String Argument)} (dropped : fewer <:+ bodies)
      (lowered : lower <:+ bindings) : Rescopes bodies bindings fewer lower
  | calls {body : Code} {table : Table String Argument} (binds : BindsFor body table) :
      Rescopes bodies bindings (body :: bodies) (table :: bindings)

/-- What going on does to the bindings in force, and which bodies are to be entered. -/
inductive Progress.Rescopes (bindings : List (Table String Argument)) (progress : Progress) : Prop
  | drops (lower : progress.store.bindings <:+ bindings)
      (plain : ∀ entry ∈ progress.move.entries, entry.drops .dropBindings = false)
  | calls {body : Code} {table : Table String Argument} (binds : BindsFor body table)
      (pushed : progress.store.bindings = table :: bindings)
      (enters : progress.move = .enter [⟨body, false, some .dropBindings⟩])

section Lists

variable {bodies fewer : List Code} {bindings lower : List (Table String Argument)}

theorem Rescopes.nested (rescopes : Rescopes bodies bindings fewer lower) :
    Nested bindings lower := by
  cases rescopes with
  | drops _ suffix => exact .inr suffix
  | calls => exact .inl (List.suffix_cons _ _)

theorem forall₂_suffix {α β : Type} {related : α → β → Prop} {firsts fewer : List α}
    {seconds lower : List β} (held : List.Forall₂ related firsts seconds)
    (first : fewer <:+ firsts) (second : lower <:+ seconds) (same : fewer.length = lower.length) :
    List.Forall₂ related fewer lower := by
  obtain ⟨front, rfl⟩ := first
  obtain ⟨other, rfl⟩ := second
  have lengths : front.length = other.length := by
    have whole := held.length_eq
    rw [List.length_append, List.length_append] at whole
    omega
  have rest := List.forall₂_drop front.length held
  rwa [List.drop_left, lengths, List.drop_left] at rest

/-- Bodies keep their bindings. -/
theorem Rescopes.binds (rescopes : Rescopes bodies bindings fewer lower)
    (held : List.Forall₂ BindsFor bodies bindings) (same : fewer.length = lower.length) :
    List.Forall₂ BindsFor fewer lower := by
  cases rescopes with
  | drops first second => exact forall₂_suffix held first second same
  | calls binds => exact .cons binds held

end Lists

section Handling

variable {context : Context} {store : Store} {sink : Nat} {progress : Progress} {pattern : Pattern}

namespace Context

theorem bindings_settlePlan (store : Store) (plan : ArgumentPlan) :
    (store.settlePlan plan).1.bindings = store.bindings :=
  congrArg Surroundings.bindings (surroundings_settlePlan store plan)

theorem rescopes_takeTurn (context : Context) (store : Store) (sink : Nat) :
    (context.takeTurn store sink).Rescopes store.bindings := by
  unfold takeTurn
  split
  · exact .drops (List.suffix_refl _) nofun
  · split
    · refine .drops (List.suffix_refl _) fun entry member => ?_
      obtain ⟨code, -, rfl⟩ := List.mem_map.mp member
      rfl
    · exact .drops (List.suffix_refl _) nofun

theorem rescopes_gather (code : Code) (task : Task) {bindings : List (Table String Argument)}
    (same : store.bindings = bindings) : (context.gather store code task).Rescopes bindings := by
  refine .drops (same ▸ List.suffix_refl _) fun entry member => ?_
  rw [List.mem_singleton.mp member]
  rfl

theorem rescopes_resumeTag {call : TagCall}
    (resumed : context.resumeTag store sink call = .ok progress) :
    progress.Rescopes store.bindings := by
  have same := bindings_settlePlan store call.plan
  unfold resumeTag at resumed
  split at resumed
  · next settled =>
      cases resumed
      rw [settled] at same
      exact rescopes_gather _ _ same
  · next settledStore done settled =>
      obtain ⟨outcome, -, rfl⟩ := map_eq_ok.mp resumed
      rw [settled] at same
      unfold Store.follow
      cases outcome.request with
      | nothing | leaveBlock => exact .drops (same ▸ List.suffix_refl _) nofun
      | run code | attempt trial fallback blankIsEmpty | compare comparison body =>
          refine .drops (same ▸ List.suffix_refl _) fun entry member => ?_
          rw [List.mem_singleton.mp member]
          rfl

/-- A call enters the body with the arguments that it passes. -/
theorem rescopes_resumeSubroutine {call : SubroutineCall}
    (standsIn : (Task.callSubroutine call).StandsIn pattern) :
    (context.resumeSubroutine store call).Rescopes store.bindings := by
  have same := bindings_settlePlan store call.plan
  unfold resumeSubroutine
  split
  · next settled =>
      rw [settled] at same
      exact rescopes_gather _ _ same
  · next settledStore arguments settled =>
      rw [settled] at same
      obtain ⟨codes, passed⟩ := SubroutineCall.exists_isPassed standsIn settled
      exact .calls ⟨_, _, codes, _, arguments, passed.written, passed.fits, rfl, rfl⟩
        (congrArg _ same) rfl

theorem rescopes_replaceNext {bindings : List (Table String Argument)} (replacement : Replacement)
    (same : store.bindings = bindings) :
    (context.replaceNext store sink replacement).Rescopes bindings := by
  unfold replaceNext
  split
  · exact .drops (same ▸ List.suffix_refl _) nofun
  · exact rescopes_gather _ _ same

/-- Only a call of a subroutine puts bindings in force. -/
theorem rescopes_resume {task : Task} (standsIn : task.StandsIn pattern)
    (resumed : context.resume store sink task = .ok progress) :
    progress.Rescopes store.bindings := by
  cases task with
  | takeTurn =>
      cases resumed
      exact rescopes_takeTurn _ _ _
  | callTag call => exact rescopes_resumeTag resumed
  | callSubroutine call =>
      cases resumed
      exact rescopes_resumeSubroutine standsIn
  | findMatches regex code | replaceMatches replacement =>
      cases resumed
      exact rescopes_replaceNext _ rfl
  | runGenerated =>
      obtain ⟨code, -, rfl⟩ := map_eq_ok.mp resumed
      refine .drops (List.suffix_refl _) fun entry member => ?_
      rw [List.mem_singleton.mp member]
      rfl
  | settleArithmetic isStatement position | defineGenerated name parameters =>
      obtain ⟨workspace, -, rfl⟩ := map_eq_ok.mp resumed
      exact .drops (List.suffix_refl _) nofun

theorem rescopes_begin (context : Context) (store : Store) (depth : Nat) (construct : Construct) :
    (context.begin store depth construct).Rescopes store.bindings := by
  cases construct with
  | nothing | block repeater | tag operation position planned
  | call subroutine position planned => exact .drops (List.suffix_refl _) nofun
  | replacer | generated | arithmetic | definition => exact rescopes_gather _ _ rfl

theorem bindings_complete (context : Context) (store : Store) (sink : Nat)
    (completion : Completion) :
    (context.complete store sink completion).store.bindings <:+ store.bindings ∧
      ∀ entry ∈ (context.complete store sink completion).move.entries,
        entry.drops .dropBindings = false := by
  cases completion with
  | dropComparison => exact ⟨List.suffix_refl _, nofun⟩
  | dropBindings => exact ⟨List.tail_suffix _, nofun⟩
  | settleTrial fallback blankIsEmpty =>
      unfold complete
      dsimp only
      split
      · refine ⟨List.suffix_refl _, fun entry member => ?_⟩
        rw [List.mem_singleton.mp member]
        rfl
      · exact ⟨List.suffix_refl _, nofun⟩

end Context

end Handling

section Stepping

variable {engine : Engine} {store : Store} {top : Activation} {beneath : List Activation}
  {progress : Progress} {configuration reached : Configuration} {entries : List Entry}
  {bindings : List (Table String Argument)} {pattern : Pattern} {seed : UInt64}

namespace Configuration

theorem bindings_enterAll
    (entered : enterAll engine entries ⟨store, top :: beneath⟩ = .ok reached) :
    reached.store.bindings = store.bindings :=
  congrArg Surroundings.bindings (surroundings_enterAll entered)

theorem bindings_release (store : Store) (top : Activation) :
    (release store top).bindings = store.bindings :=
  congrArg Surroundings.bindings (surroundings_release store top)

theorem bindings_leaveBlock (configuration : Configuration) :
    configuration.leaveBlock.store.bindings <:+ configuration.store.bindings := by
  unfold leaveBlock
  dsimp only
  split
  · exact List.suffix_refl _
  · exact List.suffix_refl _
  · exact List.drop_suffix _ _

theorem bodiesOf_enterAll
    (entered : enterAll engine entries ⟨store, top :: beneath⟩ = .ok reached)
    (plain : ∀ entry ∈ entries, entry.drops .dropBindings = false) :
    bodiesOf reached.stack = bodiesOf (top :: beneath) := by
  induction entries generalizing store top beneath with
  | nil =>
      cases entered
      rfl
  | cons entry entries inductionHypothesis =>
      obtain ⟨noBody, plain⟩ := List.forall_mem_cons.mp plain
      obtain ⟨higher, first, entered⟩ := bind_eq_ok.mp entered
      obtain ⟨-, rfl⟩ := enter_ok first
      rw [inductionHypothesis entered plain]
      refine List.filterMap_cons_none ?_
      rw [Activation.body?, Activation.drops_enter, noBody]
      rfl

theorem drops_settle (lower : progress.store.bindings <:+ bindings)
    (plain : ∀ entry ∈ progress.move.entries, entry.drops .dropBindings = false)
    (settled : settle engine top beneath progress = .ok reached) :
    bodiesOf reached.stack <:+ bodiesOf (top :: beneath) ∧ reached.store.bindings <:+ bindings := by
  unfold settle at settled
  cases move : progress.move with
  | enter entries =>
      rw [move] at settled plain
      rw [bindings_enterAll settled, bodiesOf_enterAll settled plain]
      exact ⟨List.suffix_refl _, lower⟩
  | leaveBlock =>
      rw [move] at settled
      cases settled
      have bodies := bodiesOf_suffix (leaveBlock_suffix
        ⟨progress.store, { top with elseArmed := progress.elseArmed } :: beneath⟩)
      exact ⟨bodies, (bindings_leaveBlock _).trans lower⟩

theorem rescopes_settle (rescopes : progress.Rescopes bindings)
    (settled : settle engine top beneath progress = .ok reached) :
    Rescopes (bodiesOf (top :: beneath)) bindings (bodiesOf reached.stack)
      reached.store.bindings := by
  cases rescopes with
  | drops lower plain =>
      obtain ⟨bodies, bindings⟩ := drops_settle lower plain settled
      exact .drops bodies bindings
  | @calls body table binds pushed enters =>
      unfold settle at settled
      rw [enters] at settled
      have bodies : bodiesOf reached.stack = body :: bodiesOf (top :: beneath) := by
        obtain ⟨higher, first, entered⟩ := bind_eq_ok.mp settled
        cases entered
        obtain ⟨-, rfl⟩ := enter_ok first
        rfl
      rw [bodies, (bindings_enterAll settled).trans pushed]
      exact .calls binds

theorem rescopes_step (short : top.tasks.length ≤ 1)
    (standsIn : ∀ task ∈ top.tasks, task.StandsIn top.pattern)
    (stepped : step engine store top beneath = .ok reached) :
    Rescopes (bodiesOf (top :: beneath)) store.bindings (bodiesOf reached.stack)
      reached.store.bindings := by
  cases stepped_of_step short stepped with
  | resume task progress tasks resumed settled =>
      have rescopes := Context.rescopes_resume (standsIn task (by simp [tasks])) resumed
      have settles := rescopes_settle rescopes settled
      exact settles
  | read token stop workspace construct idle next stopped reading settled =>
      have rescopes := (top.context engine store).rescopes_begin
        (store.absorb top.sink workspace) beneath.length construct
      have settles := rescopes_settle rescopes settled
      exact settles
  | leave idle ended left =>
      unfold leave at left
      split at left
      · next completion below others completes =>
          obtain ⟨lower, plain⟩ := Context.bindings_complete
            (below.context engine (release store top)) (release store top) below.sink completion
          rw [bindings_release] at lower
          obtain ⟨bodies, bindings⟩ := drops_settle lower plain left
          exact .drops (bodies.trans (bodiesOf_suffix (List.suffix_cons _ _))) bindings
      · cases left
        refine .drops (bodiesOf_suffix (List.suffix_cons _ _)) ?_
        exact bindings_release store top ▸ List.suffix_refl _

theorem length_bodiesOf_eq (wellStacked : WellStacked engine configuration) :
    (bodiesOf configuration.stack).length = configuration.store.bindings.length :=
  (length_bodiesOf _).trans wellStacked.disciplined.bindings.symm

/-- The bindings in force are those of the bodies that are under way. -/
theorem Reachable.bodies (keyed : engine.subroutines.Keyed)
    (reachable : Reachable engine pattern seed configuration) :
    List.Forall₂ BindsFor (bodiesOf configuration.stack) configuration.store.bindings := by
  induction reachable with
  | refl => exact .nil
  | tail before steps inductionHypothesis =>
      have wellStacked := Reachable.wellStacked before
      have standsIn := Reachable.tasks Task.inherited_standsIn Subroutines.kept_keyed keyed before
      have same := length_bodiesOf_eq (steps.wellStacked wellStacked)
      obtain @⟨store, top, beneath, _, stepped⟩ := steps
      have rescopes := rescopes_step (wellStacked.ordered.tasks top List.mem_cons_self)
        (standsIn top List.mem_cons_self) stepped
      exact rescopes.binds inductionHypothesis same

end Configuration

end Stepping

/-! ### Looking up -/

/-- What a tag does with the argument that it finds under a name. -/
def Invocation.passOn (invocation : Invocation) (workspace : Workspace) :
    Option Argument → Except Fault Outcome
  | none => invocation.refuse (.noArgument (invocation.trimmedText 0))
  | some (.value text) => .ok (invocation.write workspace text)
  | some (.code code) => .ok (invocation.runIf workspace true code)

/-- An argument is looked up in the bindings in force. -/
theorem Invocation.perform_argument {invocation : Invocation} {bindings : Table String Argument}
    (workspace : Workspace) (inForce : invocation.context.scope.bindings? = some bindings) :
    invocation.perform workspace .argument =
      invocation.passOn workspace (bindings.find? (invocation.trimmedText 0)) := by
  show invocation.argument workspace = _
  simp only [argument, inForce, require, bind, Except.bind]
  cases bindings.find? (invocation.trimmedText 0) with
  | none => rfl
  | some found => cases found <;> rfl

namespace Configuration

/-- The tag that looks up an argument is carried out next, with the given outcome. -/
inductive LooksUp (engine : Engine) :
    Configuration → Invocation → Workspace → Except Fault Outcome → Prop
  | intro {store settled : Store} {top : Activation} {beneath : List Activation} {call : TagCall}
      {tasks : List Task} {arguments : List Argument} (first : top.tasks = .callTag call :: tasks)
      (passed : store.settlePlan call.plan = (settled, arguments, none))
      (isArgument : call.operation = .argument) :
      LooksUp engine ⟨store, top :: beneath⟩
        (.mk (top.context engine store) call.position arguments) (settled.workspace top.sink)
        ((Invocation.mk (top.context engine store) call.position arguments).perform
          (settled.workspace top.sink) call.operation)

/-- If an argument is looked up next, then in the given bindings. -/
def ResolvesIn (engine : Engine) (bindings : Table String Argument)
    (configuration : Configuration) : Prop :=
  ∀ invocation workspace outcome, configuration.LooksUp engine invocation workspace outcome →
    outcome = invocation.passOn workspace (bindings.find? (invocation.trimmedText 0))

/-- An argument is looked up next, and is code. -/
def FindsCode (engine : Engine) (configuration : Configuration) (code : Code) : Prop :=
  ∃ invocation workspace outcome bindings,
    configuration.LooksUp engine invocation workspace outcome ∧
      configuration.store.bindings.head? = some bindings ∧
        bindings.find? (invocation.trimmedText 0) = some (.code code)

/-- Code of an argument has to be run next, for its value. -/
inductive Evaluates : Configuration → Code → Prop
  | intro {store settled : Store} {top : Activation} {beneath : List Activation} {task : Task}
      {tasks : List Task} {plan : ArgumentPlan} {done : List Argument} {code : Code}
      {waiting : List PlannedArgument} (first : top.tasks = task :: tasks)
      (planned : task.plan? = some plan)
      (next : store.settlePlan plan = (settled, done, some (code, waiting))) :
      Evaluates ⟨store, top :: beneath⟩ code

/-- The activation that was entered as `owner` is under way, and the bindings that were in force
then are in force, beneath those of the bodies that have been entered above it. An argument is
looked up in the bindings on top. -/
def KeepsInForce (engine : Engine) (owner : Activation) (lower : List Activation)
    (bindings : List (Table String Argument)) (later : Configuration) : Prop :=
  ∃ above now inner, later.stack = above ++ now :: lower ∧ now.Continues owner ∧
    later.store.bindings = inner ++ bindings ∧ List.Forall₂ BindsFor (bodiesOf above) inner ∧
      ∀ table, (inner ++ bindings).head? = some table → later.ResolvesIn engine table

/-- The code is entered next, unless the stack is too high, and as long as it is under way the
bindings that are in force now are kept in force. -/
def RunsInForce (engine : Engine) (configuration : Configuration) (code : Code) : Prop :=
  configuration.stack.length < engine.settings.maxStackDepth →
    ∃ inside owner lower, Steps engine configuration inside ∧ inside.stack = owner :: lower ∧
      lower.length = configuration.stack.length ∧ owner.code = code ∧
        ∀ later, ReachesWith engine lower.length inside later →
          later.KeepsInForce engine owner lower configuration.store.bindings

section LookingUp

variable {engine : Engine} {store : Store} {top : Activation} {beneath lower : List Activation}
  {progress : Progress} {configuration inside later : Configuration} {owner : Activation}
  {bindings : Table String Argument} {pattern : Pattern} {seed : UInt64} {code : Code}
  {entry : Entry}

theorem resolvesIn (inForce : configuration.store.bindings.head? = some bindings) :
    configuration.ResolvesIn engine bindings := by
  rintro _ _ _ ⟨first, passed, isArgument⟩
  rw [isArgument]
  exact Invocation.perform_argument _ inForce

/-- Code that has been entered keeps the bindings in force. -/
theorem keepsInForce (keyed : engine.subroutines.Keyed)
    (reachable : Reachable engine pattern seed inside) (entered : inside.stack = owner :: lower)
    (reaches : ReachesWith engine lower.length inside later) :
    later.KeepsInForce engine owner lower inside.store.bindings := by
  have height {configuration : Configuration} {above : List Activation} {now : Activation}
      (wellStacked : WellStacked engine configuration) (continues : now.Continues owner)
      (stack : configuration.stack = above ++ now :: lower) :
      configuration.store.bindings.length =
        (bodiesOf above).length + inside.store.bindings.length := by
    rw [← length_bodiesOf_eq wellStacked, ← length_bodiesOf_eq (Reachable.wellStacked reachable),
      stack, entered, bodiesOf_append, List.length_append, bodiesOf_renewed continues]
  have kept : Reachable engine pattern seed later ∧
      Covers owner lower inside.store.sinks later ∧
        inside.store.bindings <:+ later.store.bindings := by
    induction reaches with
    | refl =>
        refine ⟨reachable, ⟨⟨[], owner, entered, ⟨rfl, rfl, rfl, rfl⟩⟩, fun _ _ => rfl⟩, ?_⟩
        exact List.suffix_refl _
    | @tail before after _ steps inductionHypothesis =>
        obtain ⟨before, covers, suffix⟩ := inductionHypothesis
        have wellStacked := Reachable.wellStacked before
        have standsIn := Reachable.tasks Task.inherited_standsIn Subroutines.kept_keyed keyed before
        have afterCovers := covers.stepsWith wellStacked steps
        have afterStacked := steps.wellStacked wellStacked
        obtain ⟨stepped, -, -⟩ := steps
        have rescopes := rescopes_step (wellStacked.ordered.tasks _ List.mem_cons_self)
          (standsIn _ List.mem_cons_self) stepped
        obtain ⟨above, now, stack, continues⟩ := afterCovers.stack
        refine ⟨.tail before ⟨stepped⟩, afterCovers, rescopes.nested.suffix suffix ?_⟩
        rw [height afterStacked continues stack]
        exact Nat.le_add_left _ _
  obtain ⟨laterReachable, ⟨⟨above, now, stack, continues⟩, -⟩, inner, parts⟩ := kept
  have same := height (Reachable.wellStacked laterReachable) continues stack
  have bodies := Reachable.bodies keyed laterReachable
  rw [stack, bodiesOf_append, ← parts] at bodies
  rw [← parts, List.length_append, Nat.add_right_cancel_iff] at same
  have innermost := List.forall₂_take_append _ _ _ bodies
  rw [same, List.take_left] at innermost
  refine ⟨above, now, inner, stack, continues, parts.symm, innermost, fun table top => ?_⟩
  exact resolvesIn (parts ▸ top)

theorem settle_enter (room : beneath.length + 1 < engine.settings.maxStackDepth)
    (move : progress.move = .enter [entry]) :
    settle engine top beneath progress =
      .ok ⟨(progress.store.provide entry top.sink).1,
        .enter entry (progress.store.provide entry top.sink).2 ::
          { top with elseArmed := progress.elseArmed } :: beneath⟩ := by
  rw [settle, move]
  show enterAll engine [entry] _ = _
  rw [enterAll_singleton, enter, if_neg (Nat.not_le_of_lt room)]

/-- Code that a task enters without putting bindings in force. -/
theorem runsInForce_of_resume (entry : Entry) {task : Task} {tasks : List Task}
    (keyed : engine.subroutines.Keyed)
    (reachable : Reachable engine pattern seed ⟨store, top :: beneath⟩)
    (first : top.tasks = task :: tasks)
    (resumed : (top.context engine store).resume store top.sink task = .ok progress)
    (move : progress.move = .enter [entry]) (same : progress.store.bindings = store.bindings) :
    RunsInForce engine ⟨store, top :: beneath⟩ entry.code := by
  intro room
  have short := (Reachable.wellStacked reachable).ordered.tasks top List.mem_cons_self
  obtain rfl : tasks = [] := by
    rw [first, List.length_cons] at short
    exact List.eq_nil_of_length_eq_zero (by omega)
  have settled : settle engine { top with tasks := progress.task?.toList } beneath progress =
      .ok _ := settle_enter room move
  have steps := Steps.of_resume first resumed settled
  refine ⟨_, _, _, steps, rfl, rfl, rfl, fun later reaches => ?_⟩
  have kept := keepsInForce keyed (reachable.tail steps) rfl reaches
  have provided : (progress.store.provide entry top.sink).1.bindings = store.bindings := by
    rw [← same, Store.provide]
    split <;> rfl
  rwa [← provided]

theorem FindsCode.runsInForce (keyed : engine.subroutines.Keyed)
    (reachable : Reachable engine pattern seed configuration)
    (finds : configuration.FindsCode engine code) : configuration.RunsInForce engine code := by
  obtain ⟨invocation, workspace, outcome, bindings, looksUp, inForce, found⟩ := finds
  have resolved := resolvesIn inForce _ _ _ looksUp
  rw [found] at resolved
  obtain @⟨store, settled, top, beneath, call, tasks, arguments, first, passed, isArgument⟩ :=
    looksUp
  have same := Context.bindings_settlePlan store call.plan
  rw [passed] at same
  have resumed : (top.context engine store).resume store top.sink (.callTag call) =
      .ok (settled.follow top.sink ((Invocation.mk (top.context engine store) call.position
        arguments).runIf (settled.workspace top.sink) true code)) := by
    show Context.resumeTag _ _ _ _ = _
    unfold Context.resumeTag
    rw [passed]
    dsimp only
    rw [resolved]
    rfl
  exact runsInForce_of_resume (.shared code) keyed reachable first resumed rfl same

theorem Evaluates.runsInForce (keyed : engine.subroutines.Keyed)
    (reachable : Reachable engine pattern seed configuration)
    (evaluates : configuration.Evaluates code) : configuration.RunsInForce engine code := by
  obtain @⟨store, settled, top, beneath, task, tasks, plan, done, _, waiting, first, planned, next⟩
    := evaluates
  have same := Context.bindings_settlePlan store plan
  rw [next] at same
  cases task with
  | callTag call =>
      cases planned
      have resumed : (top.context engine store).resume store top.sink (.callTag call) =
          .ok ((top.context engine store).gather settled code
            (.callTag { call with plan := ⟨waiting, done, true⟩ })) := by
        show Context.resumeTag _ _ _ _ = _
        unfold Context.resumeTag
        rw [next]
      exact runsInForce_of_resume (.apart code) keyed reachable first resumed rfl same
  | callSubroutine call =>
      cases planned
      have resumed : (top.context engine store).resume store top.sink (.callSubroutine call) =
          .ok ((top.context engine store).gather settled code
            (.callSubroutine { call with plan := ⟨waiting, done, true⟩ })) := by
        show Except.ok (Context.resumeSubroutine _ _ _) = _
        unfold Context.resumeSubroutine
        rw [next]
      exact runsInForce_of_resume (.apart code) keyed reachable first resumed rfl same
  | _ => cases planned

/-- What arguments code sees. -/
structure ScopesArguments (engine : Engine) (configuration : Configuration) : Prop where
  bodies : List.Forall₂ BindsFor (bodiesOf configuration.stack) configuration.store.bindings
  codeArguments : ∀ code, configuration.FindsCode engine code →
    configuration.RunsInForce engine code
  valueArguments : ∀ code, configuration.Evaluates code → configuration.RunsInForce engine code

variable {bare : Engine} {prelude : List PreludePattern}

/-- Throughout a run, code that is run for an argument sees the bindings in force where it is run:
code that has been passed on those of the subroutine that it was passed to, and code that is run for
its value those of the call. -/
theorem Reachable.scopesArguments (plain : bare.subroutines = .empty)
    (made : bare.withPrelude prelude = .ok engine)
    (reachable : Reachable engine pattern seed configuration) :
    configuration.ScopesArguments engine := by
  have keyed : engine.subroutines.Keyed :=
    subroutines_withPrelude Subroutines.kept_keyed (plain ▸ Subroutines.keyed_empty) made
  exact ⟨Reachable.bodies keyed reachable, fun _ finds => finds.runsInForce keyed reachable,
    fun _ evaluates => evaluates.runsInForce keyed reachable⟩

end LookingUp

end Configuration

/-! ### Code that is passed on -/

namespace PassedCode

/-- The subroutine `f` runs its first argument; `g` passes it one that names the `n` that both
have. -/
def source (sign : String) : String :=
  "[$[f:" ++ sign ++ "p;n]:[arg:p]][$[g:n]:[$f:[arg:n];inner]][$g:outer]"

def pattern (sign : String) : Pattern :=
  (Pattern.compile "main" (source sign)).toOption.getD default

theorem findsCode_of_passed? {engine : Engine} {configuration : Configuration} {top : Activation}
    {call : TagCall} {name : String} {bindings : Table String Argument} {code : Code}
    (found : configuration.passed? = some (top, .callTag call, [.value name]))
    (isArgument : call.operation = .argument)
    (inForce : configuration.store.bindings.head? = some bindings)
    (named : bindings.find? (Text.trim name) = some (.code code)) :
    configuration.FindsCode engine code := by
  obtain ⟨store, beneath, tasks, plan, settled, rfl, first, planned, passed⟩ :=
    exists_of_passed? found
  cases planned
  exact ⟨_, _, _, bindings, .intro first passed isArgument, inForce, named⟩

/-- After seven steps `f` looks the code up that has been passed to it. -/
theorem exists_findsCode : ∃ (configuration : Configuration) (code : Code),
    Reachable .standard (pattern "@") 0 configuration ∧
      configuration.FindsCode .standard code ∧ code.text = "[arg:n]" := by
  have observed : ((after .standard 7 (start .standard (pattern "@") 0)).bind fun configuration =>
      configuration.passed?.map fun (_, task, arguments) =>
        (task.operation?, arguments,
          (configuration.store.bindings.head?.bind fun bindings => bindings.find? "p").bind
            Argument.code? |>.map Code.text)) =
      some (some .argument, [.value "p"], some "[arg:n]") := by decide +kernel
  obtain ⟨configuration, steps, found⟩ := Option.bind_eq_some_iff.mp observed
  obtain ⟨⟨top, task, arguments⟩, passed, seen⟩ := Option.map_eq_some_iff.mp found
  simp only [Prod.mk.injEq] at seen
  obtain ⟨operation, rfl, looked⟩ := seen
  obtain ⟨code, isCode, text⟩ := Option.map_eq_some_iff.mp looked
  obtain ⟨argument, bound, isCode⟩ := Option.bind_eq_some_iff.mp isCode
  obtain ⟨bindings, inForce, named⟩ := Option.bind_eq_some_iff.mp bound
  have trimmed : Text.trim "p" = "p" := by decide +kernel
  cases task with
  | callTag call =>
      cases argument with
      | value => cases isCode
      | code body =>
          cases isCode
          have finds : configuration.FindsCode .standard code :=
            findsCode_of_passed? passed (Option.some.inj operation) inForce (trimmed.symm ▸ named)
          exact ⟨configuration, code, reaches_of_after steps, finds, text⟩
  | _ => cases operation

theorem scopesArguments_findsCode : ∃ (configuration : Configuration) (code : Code),
    configuration.FindsCode .standard code ∧ code.text = "[arg:n]" ∧
      configuration.ScopesArguments .standard := by
  obtain ⟨configuration, code, reachable, finds, text⟩ := exists_findsCode
  have made : Engine.standard.withPrelude [] = .ok .standard := rfl
  exact ⟨configuration, code, finds, text, Reachable.scopesArguments rfl made reachable⟩

/-- If the parameter takes code, `n` is the argument of `f`; if it takes a value, that of `g`. -/
theorem callee_decides :
    Engine.standard.runSource "main" (source "@") 0 = .ok [⟨"main", .shared, "inner"⟩] ∧
      Engine.standard.runSource "main" (source "") 0 = .ok [⟨"main", .shared, "outer"⟩] := by
  constructor
  · have compiled : (compile "main" (source "@")).toOption = some (pattern "@") := by decide +kernel
    have observed : (after .standard 14 (start .standard (pattern "@") 0)).bind
        (outcome? .standard) = some (.ok [⟨"main", .shared, "inner"⟩]) := by decide +kernel
    exact runSource_of_after compiled observed
  · have compiled : (compile "main" (source "")).toOption = some (pattern "") := by decide +kernel
    have observed : (after .standard 15 (start .standard (pattern "") 0)).bind
        (outcome? .standard) = some (.ok [⟨"main", .shared, "outer"⟩]) := by decide +kernel
    exact runSource_of_after compiled observed

end PassedCode

end SeededText.Machine
