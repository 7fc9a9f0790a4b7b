import SeededText.Machine.Invariance
import SeededText.Proofs.Brackets
import SeededText.Proofs.Requests

/-!
Contract: the code that a run holds, and where it comes from.

Activations, their tasks and completions, the arguments in force, repeaters, attributes and
subroutines hold code. None of it is made up: what a step leaves behind holds code that was held
before, code that was cut out of the construct that was read, or a pattern as a whole.

Owns: the code that each part of a configuration holds, what becomes of it.
Does not own: what ranges these are in a run (`SeededText.Proofs.Containment`).
-/

namespace SeededText

/-- A pattern with the tokens of its source. -/
def Pattern.IsCompiled (pattern : Pattern) : Prop :=
  Pattern.compile pattern.name pattern.source = .ok pattern

namespace Machine

open Pattern

/-! ### Code that is held -/

def Argument.codes (argument : Argument) : List Code :=
  argument.code?.toList

def ArgumentPlan.codes (plan : ArgumentPlan) : List Code :=
  plan.waiting.map PlannedArgument.code ++ plan.done.flatMap Argument.codes

def Task.codes : Task → List Code
  | .callTag call => call.plan.codes
  | .callSubroutine call => call.subroutine.body :: call.plan.codes
  | .findMatches _ code => [code]
  | .replaceMatches replacement => [replacement.code]
  | .takeTurn | .runGenerated | .settleArithmetic _ _ | .defineGenerated _ _ => []

def Completion.codes : Completion → List Code
  | .settleTrial fallback _ => [fallback]
  | .dropComparison | .dropBindings => []

def Entry.codes (entry : Entry) : List Code :=
  entry.code :: entry.completion?.toList.flatMap Completion.codes

def Activation.codes (activation : Activation) : List Code :=
  activation.code ::
    (activation.completion?.toList.flatMap Completion.codes ++ activation.tasks.flatMap Task.codes)

def BlockAttributes.codes (attributes : BlockAttributes) : List Code :=
  attributes.separator?.toList ++ attributes.before?.toList ++ attributes.after?.toList

def Repeater.codes (repeater : Repeater) : List Code :=
  repeater.items.toList.map (Code.mk repeater.pattern) ++
    (repeater.separator?.toList ++ repeater.before?.toList ++ repeater.after?.toList)

def bindingCodes (bindings : Table String Argument) : List Code :=
  bindings.entries.flatMap fun entry => entry.2.codes

def Subroutines.codes (subroutines : Subroutines) : List Code :=
  subroutines.entries.map fun entry => entry.2.body

def Memory.codes (memory : Memory) : List Code :=
  memory.subroutines.codes ++ memory.attributes.codes

def Store.codes (store : Store) : List Code :=
  store.toMemory.codes ++
    (store.bindings.flatMap bindingCodes ++ store.repeaters.flatMap Repeater.codes)

def Configuration.codes (configuration : Configuration) : List Code :=
  configuration.store.codes ++ configuration.stack.flatMap Activation.codes

def Move.codes (move : Move) : List Code :=
  move.entries.flatMap Entry.codes

def Progress.codes (progress : Progress) : List Code :=
  progress.store.codes ++ (progress.move.codes ++ progress.task?.toList.flatMap Task.codes)

def Request.codes : Request → List Code
  | .run code => [code]
  | .attempt trial fallback _ => [trial, fallback]
  | .compare _ body => [body]
  | .nothing | .leaveBlock => []

def Outcome.codes (outcome : Outcome) : List Code :=
  outcome.workspace.codes ++ outcome.request.codes

/-- The code that a tag can get at. -/
def Invocation.codes (invocation : Invocation) : List Code :=
  invocation.arguments.flatMap Argument.codes ++
    invocation.context.scope.bindings?.toList.flatMap bindingCodes

def Construct.codes : Construct → List Code
  | .nothing => []
  | .block repeater => repeater.codes
  | .tag _ _ planned => planned.map PlannedArgument.code
  | .call subroutine _ planned => subroutine.body :: planned.map PlannedArgument.code
  | .replacer _ input replacement => [input, replacement]
  | .generated source | .arithmetic _ _ source | .definition _ _ source => [source]

/-! ### Compiled patterns -/

theorem isCompiled_of_compile {name source : String} {pattern : Pattern}
    (compiled : compile name source = .ok pattern) : pattern.IsCompiled := by
  unfold compile Pattern.compile at compiled
  cases lexed : tokenize source with
  | error located =>
      rw [lexed] at compiled
      cases compiled
  | ok tokens =>
      rw [lexed] at compiled
      cases compiled
      rw [Pattern.IsCompiled, Pattern.compile, lexed]
      rfl

/-! ### Parts of lists -/

section Subsets

variable {α β : Type} {first second : List α}

theorem append_subset_append_right (front : List α) (subset : first ⊆ second) :
    front ++ first ⊆ front ++ second :=
  List.append_subset.mpr
    ⟨List.subset_append_left _ _, List.subset_append_of_subset_right _ subset⟩

theorem flatMap_subset_flatMap (parts : α → List β) (subset : first ⊆ second) :
    first.flatMap parts ⊆ second.flatMap parts := by
  intro part member
  obtain ⟨whole, inside, held⟩ := List.mem_flatMap.mp member
  exact List.mem_flatMap.mpr ⟨whole, subset inside, held⟩

end Subsets

/-! ### Arguments -/

section Arguments

/-- Settling arguments only moves code. -/
theorem codes_settle (done : List Argument) (waiting : List PlannedArgument) :
    let settled := ArgumentPlan.settle done waiting
    settled.1.flatMap Argument.codes ++
        settled.2.toList.flatMap (fun next => next.1 :: next.2.map PlannedArgument.code) ⊆
      waiting.map PlannedArgument.code ++ done.flatMap Argument.codes := by
  induction waiting generalizing done with
  | nil => simp [ArgumentPlan.settle]
  | cons planned waiting inductionHypothesis =>
      simp only [ArgumentPlan.settle]
      split
      · refine List.Subset.trans (inductionHypothesis _) ?_
        simp [Argument.codes, Argument.code?]
      · split
        · refine List.Subset.trans (inductionHypothesis _) ?_
          simp [Argument.codes, Argument.code?]
        · simp

theorem bindingCodes_insert (bindings : Table String Argument) (name : String)
    (argument : Argument) :
    bindingCodes (bindings.insert name argument) ⊆ argument.codes ++ bindingCodes bindings := by
  intro code member
  obtain ⟨entry, inserted, held⟩ := List.mem_flatMap.mp member
  rcases List.mem_cons.mp (bindings.entries_insert_subset name argument inserted) with same | kept
  · subst same
    exact List.mem_append_left _ held
  · exact List.mem_append_right _ (List.mem_flatMap.mpr ⟨entry, kept, held⟩)

/-- Arguments keep their code when they are bound to names. -/
theorem codes_bind (subroutine : Subroutine) (arguments : List Argument) :
    bindingCodes (subroutine.bind arguments) ⊆ arguments.flatMap Argument.codes := by
  have bound (pairs : List (SubroutineParameter × Argument)) (bindings : Table String Argument) :
      bindingCodes (pairs.foldl (fun bindings entry => bindings.insert entry.1.name entry.2)
        bindings) ⊆ pairs.flatMap (fun entry => entry.2.codes) ++ bindingCodes bindings := by
    induction pairs generalizing bindings with
    | nil => exact List.Subset.refl _
    | cons pair pairs inductionHypothesis =>
        have first := bindingCodes_insert bindings pair.1.name pair.2
        intro code member
        have split := inductionHypothesis _ member
        simp only [List.mem_append, List.flatMap_cons] at split ⊢
        rcases split with later | inserted
        · exact .inl (.inr later)
        · have origin := first inserted
          rw [List.mem_append] at origin
          exact origin.imp_left .inl
  intro code member
  have inside := bound _ _ member
  rw [bindingCodes, Table.entries_empty, List.flatMap_nil, List.append_nil] at inside
  obtain ⟨⟨parameter, argument⟩, paired, held⟩ := List.mem_flatMap.mp inside
  exact List.mem_flatMap.mpr ⟨argument, (List.of_mem_zip paired).2, held⟩

theorem codes_plan (subroutine : Subroutine) (codes : List Code) :
    (subroutine.plan codes).map PlannedArgument.code = codes.take subroutine.parameters.length := by
  unfold Subroutine.plan
  generalize subroutine.parameters = parameters
  induction codes generalizing parameters with
  | nil => simp
  | cons code codes inductionHypothesis =>
      cases parameters with
      | nil => rfl
      | cons parameter parameters => simp [inductionHypothesis]

theorem codes_ofParameters (codes : List Code) (parameters : List Parameter) :
    (ArgumentPlan.ofParameters codes parameters).map PlannedArgument.code = codes := by
  induction codes generalizing parameters with
  | nil => rfl
  | cons code codes inductionHypothesis =>
      simp only [ArgumentPlan.ofParameters, List.map_cons, inductionHypothesis]

end Arguments

/-! ### Tags -/

section Tags

variable (invocation : Invocation) (workspace : Workspace)

@[simp] theorem Workspace.codes_write (text : String) :
    (workspace.write text).codes = workspace.codes := by
  unfold write
  split <;> rfl

theorem Subroutines.codes_define (subroutines : Subroutines) (subroutine : Subroutine) :
    (subroutines.define subroutine).codes ⊆ subroutine.body :: subroutines.codes := by
  have inserted := subroutines.entries_insert_subset
    (subroutine.name, subroutine.parameters.length) subroutine
  exact List.map_subset (fun entry : (String × Nat) × Subroutine => entry.2.body) inserted

theorem Workspace.codes_define (subroutine : Subroutine) :
    ({ workspace with subroutines := workspace.subroutines.define subroutine }).codes ⊆
      workspace.codes ++ [subroutine.body] := by
  intro code member
  rcases List.mem_append.mp member with body | attributes
  · have origin := Subroutines.codes_define _ _ body
    simp only [Memory.codes, List.mem_append, List.mem_cons, List.not_mem_nil] at origin ⊢
    grind
  · exact List.mem_append_left _ (List.mem_append_right _ attributes)

@[simp] theorem Workspace.codes_onSink (change : Output.Sink → Output.Sink) :
    (workspace.onSink change).codes = workspace.codes := rfl

namespace Invocation

@[simp] theorem codes_stay : (invocation.stay workspace).codes = workspace.codes :=
  List.append_nil _

@[simp] theorem codes_write (text : String) :
    (invocation.write workspace text).codes = workspace.codes := by
  simp [write]

@[simp] theorem codes_writeInteger (number : Int) :
    (invocation.writeInteger workspace number).codes = workspace.codes := by
  simp [writeInteger, Workspace.writeInteger]

@[simp] theorem codes_onSink (change : Output.Sink → Output.Sink) :
    (invocation.onSink workspace change).codes = workspace.codes := by
  simp [onSink]

/-- Code that an argument passes on. -/
theorem yields_code (index : Nat) :
    Yields (· ∈ invocation.arguments.flatMap Argument.codes) (invocation.code index) := by
  intro code found
  unfold Invocation.code at found
  split at found
  · next passed =>
      cases found
      obtain ⟨argument, given, held⟩ := Option.bind_eq_some_iff.mp passed
      refine List.mem_flatMap.mpr ⟨argument, List.mem_of_getElem? given, ?_⟩
      rw [Argument.codes, held]
      exact List.mem_singleton_self code
  · cases found

theorem codes_runIf (condition : Bool) {code : Code} (held : code ∈ invocation.codes) :
    (invocation.runIf workspace condition code).codes ⊆ workspace.codes ++ invocation.codes := by
  cases condition with
  | false => simp [runIf, ask, Outcome.codes, Request.codes]
  | true => simpa [runIf, ask, Outcome.codes, Request.codes] using .inr held

/-- Tags make no code. -/
theorem codes_perform (operation : TagOperation) :
    Yields (fun outcome => outcome.codes ⊆ workspace.codes ++ invocation.codes)
      (invocation.perform workspace operation) := by
  have code (index : Nat) : Yields (· ∈ invocation.codes) (invocation.code index) :=
    fun body found => List.mem_append_left _ (invocation.yields_code index body found)
  cases operation with
  | setSeparator | setBefore | setAfter =>
      refine yields_bind_of (code 0) fun body held => ?_
      simp [Memory.codes, BlockAttributes.codes]
      grind
  | whenTurn test =>
      refine yields_bind fun repeater => yields_bind_of (code 0) fun body held => ?_
      exact (yields_pure _).mpr (invocation.codes_runIf workspace _ held)
  | whenNth =>
      refine yields_bind fun interval => ?_
      split
      · exact yields_error _
      · split <;>
          refine yields_bind fun offset => yields_bind fun repeater =>
            yields_bind_of (code _) fun body held => ?_
        all_goals exact (yields_pure _).mpr (invocation.codes_runIf workspace _ held)
  | alternative blankIsEmpty =>
      refine yields_bind_of (code 0) fun trial trialHeld =>
        yields_bind_of (code 1) fun fallback fallbackHeld => ?_
      simp [ask, Outcome.codes, Request.codes, trialHeld, fallbackHeld]
  | argument =>
      show Yields _ (invocation.argument workspace)
      refine yields_bind_of (invocation.yields_require _ _) fun bindings inForce =>
        yields_bind_of (invocation.yields_require _ _) fun argument named => ?_
      cases argument with
      | value text => simp
      | code body =>
          refine (yields_pure _).mpr (invocation.codes_runIf workspace _ ?_)
          refine List.mem_append_right _ (List.mem_flatMap.mpr
            ⟨bindings, Option.mem_toList.mpr inForce, List.mem_flatMap.mpr ?_⟩)
          exact ⟨_, Table.mem_entries_of_find? named, List.mem_singleton_self body⟩
  | whenFlag defined =>
      refine yields_bind fun name => yields_bind_of (code 1) fun body held => ?_
      exact (yields_pure _).mpr (invocation.codes_runIf workspace _ held)
  | otherwise =>
      refine yields_bind_of (code 0) fun body held => ?_
      exact (yields_pure _).mpr (invocation.codes_runIf workspace _ held)
  | compareTexts =>
      refine yields_bind_of (code 2) fun body held => ?_
      simp [ask, Outcome.codes, Request.codes, held]
  | whenCompared =>
      refine yields_bind fun comparison => yields_bind fun holds =>
        yields_bind_of (code 1) fun body held => ?_
      exact (yields_pure _).mpr (invocation.codes_runIf workspace _ held)
  | leaveBlock =>
      refine yields_bind fun repeater => ?_
      simp [ask, Outcome.codes, Request.codes]
  | _ =>
      simp only [perform, randomNumber, synchronize, controlSynchronizer, reseedSynchronizer,
        matchedText, capturedGroup, setNumberFormat, setCapitalization, inferCapitalization,
        openChannel, closeChannel, placeTarget, changeTarget, setMarker, distance,
        randomCharacters, setFlags, callHook]
      repeat' first | refine yields_bind fun value => ?_ | split
      all_goals
        simp only [yields_ok, yields_pure, yields_error, yields_refuse, codes_stay, codes_write,
          codes_writeInteger, codes_onSink]
      -- The rest keeps subroutines and attributes.
      all_goals exact List.subset_append_left _ _

end Invocation

end Tags

/-! ### Tasks -/

section Tasks

variable (context : Context) (store : Store) (sink : Nat)

theorem Store.codes_absorb (workspace : Workspace) :
    (store.absorb sink workspace).codes = workspace.codes ++
      (store.bindings.flatMap bindingCodes ++ store.repeaters.flatMap Repeater.codes) := rfl

@[simp] theorem Store.codes_dropResult : store.dropResult.codes = store.codes := rfl

theorem Store.codes_absorb_subset {workspace : Workspace} {held : List Code}
    (changed : workspace.codes ⊆ store.codes ++ held) :
    (store.absorb sink workspace).codes ⊆ store.codes ++ held := by
  rw [codes_absorb]
  refine List.append_subset.mpr ⟨changed, ?_⟩
  exact List.subset_append_of_subset_left held (List.subset_append_right _ _)

/-- A memory that holds the same code can be taken over. -/
theorem Store.codes_absorb_of_eq {workspace : Workspace}
    (same : workspace.codes = store.toMemory.codes) :
    (store.absorb sink workspace).codes = store.codes := by
  rw [codes_absorb, same]
  rfl

@[simp] theorem Store.codes_workspace :
    (store.workspace sink).codes = store.toMemory.codes := rfl

theorem codes_chooseItem (workspace : Workspace) (repeater : Repeater) :
    (workspace.chooseItem repeater).2.codes = workspace.codes := by
  unfold Workspace.chooseItem
  split
  · rfl
  · split <;> rfl

theorem codes_pieces (repeater : Repeater) (choice : Nat) :
    repeater.pieces choice ⊆ repeater.codes := by
  intro code member
  have present : (if 0 < repeater.index then repeater.separator? else none) = some code ∨
      repeater.before? = some code ∨ repeater.item? choice = some code ∨
        repeater.after? = some code := by
    simpa [Repeater.pieces, eq_comm] using member
  simp only [Repeater.codes, List.mem_append, Option.mem_toList, List.mem_map]
  rcases present with separator | before | item | after
  · split at separator
    · exact .inr (.inl (.inl separator))
    · cases separator
  · exact .inr (.inl (.inr before))
  · obtain ⟨span, chosen, rfl⟩ := Option.map_eq_some_iff.mp item
    exact .inl ⟨span, Array.mem_toList_iff.mpr (Array.mem_of_getElem? chosen), rfl⟩
  · exact .inr (.inr after)

theorem codes_advance {repeater advanced : Repeater} {turn : Bool}
    (advances : repeater.advance = (turn, advanced)) : advanced.codes = repeater.codes := by
  unfold Repeater.advance at advances
  split at advances
  · cases advances
    rfl
  · split at advances <;> cases advances <;> rfl

theorem codes_shared (pieces : List Code) :
    (pieces.map Entry.shared).flatMap Entry.codes = pieces := by
  induction pieces with
  | nil => rfl
  | cons piece pieces inductionHypothesis =>
      rw [List.map_cons, List.flatMap_cons, inductionHypothesis]
      rfl

theorem Context.codes_stay : (context.stay store).codes = store.codes :=
  List.append_nil _

theorem Context.codes_enter (entry : Entry) :
    (context.enter store entry).codes = store.codes ++ entry.codes := by
  simp [Context.enter, Progress.codes, Move.codes, Move.entries]

theorem Context.codes_gather (code : Code) (task : Task) :
    (context.gather store code task).codes = store.codes ++ code :: task.codes := by
  simp [Context.gather, Progress.codes, Move.codes, Move.entries, Entry.codes, Entry.apart]

theorem Context.codes_takeTurn : (context.takeTurn store sink).codes ⊆ store.codes := by
  unfold Context.takeTurn
  split
  · rw [codes_stay]
    exact List.Subset.refl _
  · next repeater outer repeaters =>
      split
      · next advanced turn =>
          have kept := codes_advance turn
          have chosen := codes_chooseItem (store.workspace sink) advanced
          have pieces := codes_pieces advanced ((store.workspace sink).chooseItem advanced).1
          refine List.append_subset.mpr ⟨?_, List.append_subset.mpr ⟨?_, List.nil_subset _⟩⟩
          · rw [Store.codes_absorb, chosen]
            simp [Store.codes, repeaters, kept]
          · rw [Move.codes, Move.entries, codes_shared, Store.codes, repeaters]
            intro code member
            have inside := pieces (List.mem_reverse.mp member)
            rw [kept] at inside
            simp [inside]
      · rw [codes_stay]
        intro code
        simp only [Store.codes, repeaters, List.flatMap_cons, List.mem_append]
        exact Or.imp_right (Or.imp_right Or.inr)

theorem Store.codes_settlePlan (plan : ArgumentPlan) :
    let settled := store.settlePlan plan
    settled.1.codes = store.codes ∧
      settled.2.1.flatMap Argument.codes ++
          settled.2.2.toList.flatMap (fun next => next.1 :: next.2.map PlannedArgument.code) ⊆
        plan.codes := by
  unfold Store.settlePlan
  split
  · refine ⟨rfl, List.Subset.trans (codes_settle _ _) ?_⟩
    simp [ArgumentPlan.receive, ArgumentPlan.codes, Argument.codes, Argument.code?]
  · exact ⟨rfl, codes_settle _ _⟩

theorem Store.codes_scope :
    store.scope.bindings?.toList.flatMap bindingCodes ⊆ store.codes := by
  intro code member
  obtain ⟨bindings, inForce, held⟩ := List.mem_flatMap.mp member
  have top := List.mem_of_mem_head? (Option.mem_toList.mp inForce)
  simp only [Store.codes, List.mem_append, List.mem_flatMap]
  exact .inr (.inl ⟨bindings, top, held⟩)

theorem Store.codes_grant (request : Request) :
    (store.grant request).1.codes = store.codes ∧
      (store.grant request).2.codes = request.codes := by
  cases request <;> exact ⟨rfl, rfl⟩

theorem Store.codes_follow {outcome : Outcome} {held : List Code}
    (made : outcome.codes ⊆ store.codes ++ held) :
    (store.follow sink outcome).codes ⊆ store.codes ++ held := by
  obtain ⟨memory, asked⟩ := List.append_subset.mp made
  obtain ⟨store_eq, move_eq⟩ := (store.absorb sink outcome.workspace).codes_grant outcome.request
  refine List.append_subset.mpr ⟨?_, List.append_subset.mpr ⟨?_, List.nil_subset _⟩⟩
  · exact store_eq ▸ store.codes_absorb_subset sink memory
  · exact move_eq ▸ asked

section Resuming

variable {context : Context} {store : Store} {sink : Nat} {progress : Progress}

/-- Calls of tags make no code. -/
theorem Context.codes_resumeTag {call : TagCall} (inForce : context.scope = store.scope)
    (resumed : context.resumeTag store sink call = .ok progress) :
    progress.codes ⊆ store.codes ++ call.plan.codes := by
  obtain ⟨kept, held⟩ := store.codes_settlePlan call.plan
  unfold Context.resumeTag at resumed
  generalize store.settlePlan call.plan = settled at kept held resumed
  obtain ⟨settledStore, done, next?⟩ := settled
  cases next? with
  | some next =>
      obtain ⟨code, waiting⟩ := next
      cases resumed
      rw [codes_gather, kept]
      refine append_subset_append_right _ fun body member => held ?_
      simp only [Task.codes, ArgumentPlan.codes, List.mem_cons, List.mem_append] at member
      simp only [Option.toList_some, List.flatMap_cons, List.flatMap_nil, List.append_nil,
        List.mem_append, List.mem_cons]
      grind
  | none =>
      obtain ⟨outcome, performed, rfl⟩ := map_eq_ok.mp resumed
      rw [← kept]
      refine settledStore.codes_follow sink fun code member => ?_
      have made := Invocation.codes_perform _ _ _ outcome performed member
      simp only [Option.toList_none, List.flatMap_nil, List.append_nil] at held
      rcases List.mem_append.mp made with memory | given
      · exact List.mem_append_left _ (List.mem_append_left _ memory)
      · rcases List.mem_append.mp given with argument | bound
        · exact List.mem_append_right _ (held argument)
        · refine List.mem_append_left _ ?_
          rw [Invocation.context_mk, inForce] at bound
          exact kept ▸ store.codes_scope bound

/-- Calls of subroutines make no code. -/
theorem Context.codes_resumeSubroutine (context : Context) (store : Store) (call : SubroutineCall) :
    (context.resumeSubroutine store call).codes ⊆
      store.codes ++ call.subroutine.body :: call.plan.codes := by
  obtain ⟨kept, held⟩ := store.codes_settlePlan call.plan
  unfold Context.resumeSubroutine
  generalize store.settlePlan call.plan = settled at kept held
  obtain ⟨settledStore, done, next?⟩ := settled
  cases next? with
  | some next =>
      obtain ⟨code, waiting⟩ := next
      rw [codes_gather, kept]
      refine append_subset_append_right _ fun body member => ?_
      have held := @held body
      simp only [Task.codes, ArgumentPlan.codes, List.mem_cons, List.mem_append] at member
      simp only [Option.toList_some, List.flatMap_cons, List.flatMap_nil, List.append_nil,
        List.mem_append, List.mem_cons] at held ⊢
      grind
  | none =>
      have bound := codes_bind call.subroutine done
      simp only [Option.toList_none, List.flatMap_nil, List.append_nil] at held
      rw [codes_enter, ← kept]
      intro code member
      simp only [Store.codes, List.flatMap_cons, List.mem_append] at member ⊢
      rcases member with (memory | (argument | outer) | repeater) | body
      · exact .inl (.inl memory)
      · exact .inr (List.mem_cons_of_mem _ (held (bound argument)))
      · exact .inl (.inr (.inl outer))
      · exact .inl (.inr (.inr repeater))
      · exact .inr (List.mem_cons.mpr (.inl (List.mem_singleton.mp body)))

theorem Context.codes_replaceNext (context : Context) (store : Store) (sink : Nat)
    (replacement : Replacement) :
    (context.replaceNext store sink replacement).codes ⊆ store.codes ++ [replacement.code] := by
  unfold Context.replaceNext
  split
  · rw [codes_stay, Store.codes_absorb_of_eq _ _ (by simp)]
    exact List.subset_append_left _ _
  · rw [codes_gather]
    refine append_subset_append_right _ ?_
    simp [Task.codes]

theorem Context.codes_defineGenerated {workspace changed : Workspace} {name text : String}
    {parameters : List SubroutineParameter}
    (defined : context.defineGenerated workspace name parameters text = .ok changed) :
    ∃ pattern, pattern.IsCompiled ∧ changed.codes ⊆ workspace.codes ++ [Code.whole pattern] := by
  obtain ⟨pattern, compiled, rfl⟩ := map_eq_ok.mp defined
  exact ⟨pattern, isCompiled_of_compile compiled, Workspace.codes_define _ _⟩

theorem Context.codes_settleArithmetic {workspace changed : Workspace} {isStatement : Bool}
    {position : Pattern.Position} {text : String}
    (settled : context.settleArithmetic workspace isStatement position text = .ok changed) :
    changed.codes = workspace.codes := by
  unfold Context.settleArithmetic at settled
  split at settled
  · cases settled
  · cases settled
    split
    · rfl
    · exact Workspace.codes_write _ _

/-- A task makes code only as the whole of a pattern that it compiles. -/
theorem Context.codes_resume {task : Task} (inForce : context.scope = store.scope)
    (resumed : context.resume store sink task = .ok progress) :
    ∃ patterns : List Pattern, (∀ pattern ∈ patterns, pattern.IsCompiled) ∧
      progress.codes ⊆ store.codes ++ (task.codes ++ patterns.map Code.whole) := by
  cases task with
  | takeTurn =>
      cases resumed
      exact ⟨[], nofun, List.subset_append_of_subset_left _ (codes_takeTurn _ _ _)⟩
  | callTag call =>
      refine ⟨[], nofun, ?_⟩
      rw [List.map_nil, List.append_nil]
      exact codes_resumeTag inForce resumed
  | callSubroutine call =>
      cases resumed
      refine ⟨[], nofun, ?_⟩
      rw [List.map_nil, List.append_nil]
      exact codes_resumeSubroutine _ _ _
  | findMatches regex code =>
      cases resumed
      refine ⟨[], nofun, ?_⟩
      rw [List.map_nil, List.append_nil]
      exact codes_replaceNext _ _ _ _
  | replaceMatches replacement =>
      cases resumed
      refine ⟨[], nofun, ?_⟩
      rw [List.map_nil, List.append_nil]
      exact codes_replaceNext _ _ _ _
  | runGenerated =>
      obtain ⟨code, generated, rfl⟩ := map_eq_ok.mp resumed
      obtain ⟨pattern, compiled, rfl⟩ := map_eq_ok.mp generated
      refine ⟨[pattern], by simpa using isCompiled_of_compile compiled, ?_⟩
      rw [codes_enter]
      exact List.Subset.refl _
  | settleArithmetic isStatement position =>
      obtain ⟨workspace, settled, rfl⟩ := map_eq_ok.mp resumed
      refine ⟨[], nofun, ?_⟩
      rw [codes_stay, store.dropResult.codes_absorb_of_eq _ (codes_settleArithmetic settled)]
      exact List.subset_append_left _ _
  | defineGenerated name parameters =>
      obtain ⟨workspace, defined, rfl⟩ := map_eq_ok.mp resumed
      obtain ⟨pattern, compiled, made⟩ := codes_defineGenerated defined
      refine ⟨[pattern], by simpa using compiled, ?_⟩
      rw [codes_stay]
      refine store.dropResult.codes_absorb_subset _ (List.Subset.trans made ?_)
      exact List.append_subset.mpr ⟨List.subset_append_of_subset_left _
        (List.subset_append_left _ _), List.subset_append_right _ _⟩

/-- Completions make no code. -/
theorem Context.codes_complete (context : Context) (store : Store) (sink : Nat)
    (completion : Completion) :
    (context.complete store sink completion).codes ⊆ store.codes ++ completion.codes := by
  cases completion with
  | dropComparison =>
      exact (context.codes_stay _).symm ▸ List.subset_append_left _ _
  | dropBindings =>
      refine (context.codes_stay _).symm ▸ List.subset_append_of_subset_left _ ?_
      refine append_subset_append_right _ (List.append_subset.mpr ⟨?_, ?_⟩)
      · exact List.subset_append_of_subset_left _
          (flatMap_subset_flatMap _ fun _ => List.mem_of_mem_tail)
      · exact List.subset_append_right _ _
  | settleTrial fallback blankIsEmpty =>
      simp only [Context.complete]
      split
      · rw [codes_enter]
        exact List.Subset.refl _
      · rw [codes_stay, store.dropResult.codes_absorb_of_eq _ (Workspace.codes_onSink _ _)]
        exact List.subset_append_left _ _

/-- What is left of a construct holds its code. -/
theorem Context.codes_begin (context : Context) (store : Store) (depth : Nat)
    (construct : Construct) :
    (context.begin store depth construct).codes ⊆ store.codes ++ construct.codes := by
  cases construct with
  | nothing => simp [Context.begin, codes_stay, Construct.codes]
  | block repeater =>
      intro code
      simp only [Context.begin, Context.leaveTask, Progress.codes, Move.codes, Move.entries,
        Construct.codes, Task.codes, Store.codes, Option.toList_some, List.flatMap_cons, List.flatMap_nil,
        List.append_nil, List.mem_append]
      grind
  | tag operation position planned =>
      simp [Context.begin, Context.leaveTask, Progress.codes, Move.codes, Move.entries,
        Construct.codes, Task.codes, ArgumentPlan.codes, ArgumentPlan.start]
  | call subroutine position planned =>
      simp [Context.begin, Context.leaveTask, Progress.codes, Move.codes, Move.entries,
        Construct.codes, Task.codes, ArgumentPlan.codes, ArgumentPlan.start]
  | replacer regex input replacement =>
      simp [Context.begin, codes_gather, Construct.codes, Task.codes]
  | generated source => simp [Context.begin, codes_gather, Construct.codes, Task.codes]
  | arithmetic isStatement position source =>
      simp [Context.begin, codes_gather, Construct.codes, Task.codes]
  | definition name parameters source =>
      simp [Context.begin, codes_gather, Construct.codes, Task.codes]

end Resuming

end Tasks

/-! ### The stack -/

section Stack

variable {engine : Engine} {store : Store} {top : Activation} {beneath : List Activation}
  {progress : Progress} {reached : Configuration}

/-- An activation that was entered for some code, and has not started yet. -/
def Activation.IsEntered (entries : List Entry) (activation : Activation) : Prop :=
  ∃ entry ∈ entries, ∃ sink, activation = .enter entry sink

namespace Configuration

theorem origin_of_enterAll {entries : List Entry}
    (entered : enterAll engine entries ⟨store, top :: beneath⟩ = .ok reached) :
    reached.store.codes = store.codes ∧
      ∀ activation ∈ reached.stack,
        activation.IsEntered entries ∨ activation ∈ top :: beneath := by
  induction entries generalizing store top beneath with
  | nil =>
      cases entered
      exact ⟨rfl, fun _ member => .inr member⟩
  | cons entry entries inductionHypothesis =>
      obtain ⟨higher, first, entered⟩ := bind_eq_ok.mp entered
      obtain ⟨-, rfl⟩ := enter_ok first
      obtain ⟨codes, origin⟩ := inductionHypothesis entered
      refine ⟨codes.trans ?_, fun activation member => ?_⟩
      · unfold Store.provide
        split <;> rfl
      · rcases origin activation member with ⟨later, inside, sink, same⟩ | inside
        · exact .inl ⟨later, List.mem_cons_of_mem _ inside, sink, same⟩
        · rcases List.mem_cons.mp inside with same | present
          · exact .inl ⟨entry, List.mem_cons_self, _, same⟩
          · exact .inr present

theorem codes_leaveBlock (configuration : Configuration) :
    configuration.leaveBlock.store.codes ⊆ configuration.store.codes := by
  obtain ⟨store, stack⟩ := configuration
  cases repeaters : store.repeaters with
  | nil =>
      simp only [leaveBlock, repeaters]
      exact List.Subset.refl _
  | cons repeater outer =>
      have finished : (repeater.finish :: outer).flatMap Repeater.codes =
          store.repeaters.flatMap Repeater.codes := by
        rw [repeaters]
        rfl
      cases bases : store.bases with
      | nil =>
          simp only [leaveBlock, repeaters, bases, Store.codes, finished]
          exact List.Subset.refl _
      | cons base _ =>
          simp only [leaveBlock, repeaters, bases, unwindTo, Store.codes, Store.cutTo,
            Store.lowest, finished]
          refine append_subset_append_right _ (List.append_subset.mpr ⟨?_, ?_⟩)
          · exact List.subset_append_of_subset_left _
              (flatMap_subset_flatMap _ (List.drop_subset _ _))
          · exact List.subset_append_right _ _

/-- What a step leaves: activations that were there and code that was to be entered. -/
theorem origin_of_settle (settled : settle engine top beneath progress = .ok reached) :
    reached.store.codes ⊆ progress.store.codes ∧
      ∀ activation ∈ reached.stack, activation.IsEntered progress.move.entries ∨
        activation ∈ { top with elseArmed := progress.elseArmed } :: beneath := by
  unfold settle shift at settled
  split at settled
  · next entries move =>
      obtain ⟨codes, origin⟩ := origin_of_enterAll settled
      rw [move]
      exact ⟨codes ▸ List.Subset.refl _, origin⟩
  · next move =>
      cases settled
      exact ⟨codes_leaveBlock _, fun activation member =>
        .inr ((leaveBlock_suffix _).subset member)⟩

end Configuration

end Stack

end Machine

end SeededText
