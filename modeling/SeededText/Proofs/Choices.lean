import SeededText.Proofs.ChoiceStreams
import SeededText.Proofs.Requests
import SeededText.Proofs.Runs

/-!
Contract: every item that a block chooses is there.

Synchronizers are made, and then nothing is done to them but to use them. A deck may meet blocks of
other sizes than the one it was made for, and it may be pinned, stepped or only partly dealt.
Whatever is done to a synchronizer, its deck holds nothing but indices below the size of the deck,
and a deck of another size is never dealt from. So each choice is below the length that the request
gives.

Owns: that the synchronizers of a run keep what no use takes from them, step by step, among it that
their decks are in order, and the choice of an item.
Does not own: what one synchronizer does to its deck (`SeededText.Proofs.Dealing`), and what a block
does with the item (`SeededText.Proofs.Iteration`).
-/

namespace SeededText

namespace Choice

/-! ### The synchronizers of a run -/

/-- A property that synchronizers have when they are made, and that no use takes from them. -/
structure Synchronizer.Kept (property : Synchronizer → Prop) : Prop where
  fresh : ∀ kind seed, property (.fresh kind seed)
  perform : ∀ synchronizer length (use : Use), property synchronizer →
    property (use.perform length synchronizer).2

/-- Decks stay in order. -/
theorem Synchronizer.kept_dealt : Kept Dealt where
  fresh := dealt_fresh
  perform synchronizer length use dealt := by
    cases use with
    | next => exact (dealt.next length).1
    | step => exact dealt.step
    | pin | unpin => exact dealt
    | reset | reseed => exact dealt_fresh _ _

namespace Synchronizers

variable {property : Synchronizer → Prop} {synchronizers : Synchronizers}

/-- All synchronizers have a property. -/
def All (property : Synchronizer → Prop) (synchronizers : Synchronizers) : Prop :=
  ∀ name synchronizer, synchronizers.find? name = some synchronizer → property synchronizer

/-- All decks are in order. -/
def Dealt (synchronizers : Synchronizers) : Prop :=
  ∀ name synchronizer, synchronizers.find? name = some synchronizer → synchronizer.Dealt

theorem all_fresh (seed : UInt64) : (fresh seed).All property := nofun

theorem All.set (all : synchronizers.All property) (name : String) {synchronizer : Synchronizer}
    (holds : property synchronizer) : (synchronizers.set name synchronizer).All property := by
  intro other found sought
  rw [find?, Synchronizers.set, Table.find?_insert] at sought
  split at sought
  · exact Option.some.inj sought ▸ holds
  · exact all other found sought

theorem All.activate (all : synchronizers.All property) (kept : Synchronizer.Kept property)
    (name : String) (kind : SynchronizerKind) :
    (synchronizers.activate name kind).All property := by
  intro other found sought
  rw [find?, Synchronizers.activate, Table.find?_insertIfNew] at sought
  rcases Option.or_eq_some_iff.mp sought with present | ⟨-, added⟩
  · exact all other found present
  · split at added
    · exact Option.some.inj added ▸ kept.fresh _ _
    · cases added

theorem All.update? (all : synchronizers.All property) {name : String}
    {change : Synchronizer → Synchronizer} {changed : Synchronizers}
    (keeps : ∀ synchronizer, property synchronizer → property (change synchronizer))
    (updated : synchronizers.update? name change = some changed) : changed.All property := by
  obtain ⟨synchronizer, found, rfl⟩ := Option.map_eq_some_iff.mp updated
  exact all.set name (keeps synchronizer (all name synchronizer found))

theorem All.reseed? (all : synchronizers.All property) (kept : Synchronizer.Kept property)
    {name seed : String} {changed : Synchronizers}
    (reseeded : synchronizers.reseed? name seed = some changed) : changed.All property :=
  all.update? (fun _ _ => kept.fresh _ _) reseeded

theorem All.of_active? (all : synchronizers.All property) {name : String}
    {synchronizer : Synchronizer} (active : synchronizers.active? = some (name, synchronizer)) :
    property synchronizer := by
  simp only [active?, bind, Option.bind_eq_some_iff, pure] at active
  obtain ⟨found, -, other, sought, same⟩ := active
  cases same
  exact all _ _ sought

end Synchronizers

end Choice

namespace Machine

open Choice SeededText.Machine.Configuration

/-! ### Tags and constructs -/

@[simp] theorem Workspace.synchronizers_write (workspace : Workspace) (text : String) :
    (workspace.write text).synchronizers = workspace.synchronizers := by
  unfold write
  split <;> rfl

section Tags

variable {property : Synchronizer → Prop} (kept : Synchronizer.Kept property)
  (invocation : Invocation) {workspace : Workspace}

include kept

theorem Invocation.kept_synchronize (all : workspace.synchronizers.All property) :
    Yields (fun outcome => outcome.workspace.synchronizers.All property)
      (invocation.synchronize workspace) :=
  yields_bind fun name => yields_bind fun kind =>
    (yields_pure _).mpr (all.activate kept name kind)

theorem Invocation.kept_controlSynchronizer (all : workspace.synchronizers.All property)
    (action : SynchronizerAction) :
    Yields (fun outcome => outcome.workspace.synchronizers.All property)
      (invocation.controlSynchronizer workspace action) := by
  refine yields_bind_of (invocation.yields_require _ _) fun changed updated => ?_
  refine (yields_pure _).mpr (all.update? (fun synchronizer holds => ?_) updated)
  cases action with
  | pin => exact kept.perform synchronizer 0 .pin holds
  | unpin => exact kept.perform synchronizer 0 .unpin holds
  | step => exact kept.perform synchronizer 0 .step holds
  | reset => exact kept.fresh _ _

theorem Invocation.kept_reseedSynchronizer (all : workspace.synchronizers.All property) :
    Yields (fun outcome => outcome.workspace.synchronizers.All property)
      (invocation.reseedSynchronizer workspace) :=
  yields_bind_of (invocation.yields_require _ _) fun _ reseeded =>
    (yields_pure _).mpr (all.reseed? kept reseeded)

/-- Whatever a tag does, it does nothing to synchronizers but make and use them. -/
theorem Invocation.kept_perform (all : workspace.synchronizers.All property)
    (operation : TagOperation) :
    Yields (fun outcome => outcome.workspace.synchronizers.All property)
      (invocation.perform workspace operation) := by
  cases operation with
  | synchronize => exact invocation.kept_synchronize kept all
  | desynchronize => exact (yields_ok _).mpr all
  | control action => exact invocation.kept_controlSynchronizer kept all action
  | reseed => exact invocation.kept_reseedSynchronizer kept all
  | _ =>
      simp only [perform, randomNumber, whenTurn, whenNth, alternative, matchedText, capturedGroup,
        argument, setNumberFormat, setCapitalization, inferCapitalization, openChannel,
        closeChannel, placeTarget, changeTarget, setMarker, distance, randomCharacters, setFlags,
        whenFlag, otherwise, compareTexts, whenCompared, leaveBlock, callHook]
      repeat' first | refine yields_bind fun value => ?_ | split
      all_goals
        simp [stay, ask, runIf, write, Invocation.writeInteger, Workspace.writeInteger, onSink,
          Workspace.onSink, all]

end Tags

section Constructs

variable (context : Context) (workspace : Workspace)

/-- Reading a construct asks nothing of synchronizers. -/
def Reading.SameSynchronizers (workspace : Workspace) (reading : Reading) : Prop :=
  reading.1.synchronizers = workspace.synchronizers

namespace Context

theorem synchronizers_readBlock (items : Array Pattern.Span) :
    (context.readBlock workspace items).SameSynchronizers workspace := by
  simp only [readBlock]
  split
  · rfl
  · split <;> split <;> rfl

theorem synchronizers_writeEntry (position : Pattern.Position) (query : Vocabulary.Query) :
    Yields (Reading.SameSynchronizers workspace) (context.writeEntry workspace position query) := by
  simp only [writeEntry, refuse]
  repeat' split
  all_goals simp [Reading.SameSynchronizers]

theorem synchronizers_readQuery (opener : Pattern.Token) (opening close : Nat) :
    Yields (Reading.SameSynchronizers workspace)
      (context.readQuery workspace opener opening close) := by
  simp only [readQuery, refuse, reject]
  repeat' first | exact context.synchronizers_writeEntry workspace _ _ | split
  all_goals simp [Reading.SameSynchronizers]

theorem synchronizers_readEscape (token : Pattern.Token) :
    Yields (Reading.SameSynchronizers workspace) (context.readEscape workspace token) := by
  simp only [readEscape, refuse, reject]
  repeat' split
  all_goals simp [Reading.SameSynchronizers]

theorem synchronizers_readTag (opener : Pattern.Token) (opening close : Nat) :
    Yields (Reading.SameSynchronizers workspace)
      (context.readTag workspace opener opening close) := by
  simp only [readTag, replace, readSubroutine, callTag, callSubroutine, defineSubroutine, refuse,
    reject]
  repeat' first | refine yields_bind fun value => ?_ | split
  all_goals simp [Reading.SameSynchronizers]

theorem synchronizers_readConstruct (index stop : Nat) (token : Pattern.Token) :
    Yields (Reading.SameSynchronizers workspace)
      (context.readConstruct workspace index stop token) := by
  simp only [readConstruct]
  split
  · exact (yields_ok _).mpr (context.synchronizers_readBlock workspace _)
  · exact context.synchronizers_readTag workspace _ _ _
  · exact (yields_ok _).mpr rfl
  · exact context.synchronizers_readQuery workspace _ _ _
  · exact yields_error _
  · exact context.synchronizers_readEscape workspace _
  · exact (yields_ok _).mpr (workspace.synchronizers_write _)
  · exact (yields_ok _).mpr (workspace.synchronizers_write _)

end Context

end Constructs

/-! ### Choosing an item -/

section Choosing

variable {property : Synchronizer → Prop} {workspace : Workspace}

/-- The item that is chosen for a turn is there, whoever chooses it. -/
theorem Workspace.chooseItem_lt (dealt : workspace.synchronizers.Dealt) {repeater : Repeater}
    (some : 0 < repeater.items.size) :
    (workspace.chooseItem repeater).1 < repeater.items.size := by
  simp only [chooseItem, Nat.max_eq_right some]
  split
  · exact Nat.mod_lt _ some
  · split
    · next name synchronizer active =>
        have inOrder : synchronizer.Dealt := Synchronizers.All.of_active? dealt active
        exact (inOrder.next _).2 some
    · exact Random.Generator.below_lt _ _ some

theorem Workspace.kept_chooseItem (kept : Synchronizer.Kept property)
    (all : workspace.synchronizers.All property) (repeater : Repeater) :
    (workspace.chooseItem repeater).2.synchronizers.All property := by
  simp only [chooseItem]
  split
  · exact all
  · split
    · next name synchronizer active =>
        exact all.set name (kept.perform synchronizer _ .next (all.of_active? active))
    · exact all

end Choosing

/-! ### Steps -/

namespace Context

variable {property : Synchronizer → Prop} {context : Context} {store : Store} {sink depth : Nat}
  {progress : Progress}

theorem kept_takeTurn (kept : Synchronizer.Kept property)
    (all : store.synchronizers.All property) :
    (context.takeTurn store sink).store.synchronizers.All property := by
  unfold takeTurn
  split
  · exact all
  · split
    · next advanced turn => exact (store.workspace sink).kept_chooseItem kept all advanced
    · exact all

theorem synchronizers_settlePlan (store : Store) (plan : ArgumentPlan) :
    (store.settlePlan plan).1.synchronizers = store.synchronizers :=
  (congrArg (fun store : Store => store.synchronizers) (store.settlePlan_eq plan)).trans rfl

theorem synchronizers_follow (store : Store) (sink : Nat) (outcome : Outcome) :
    (store.follow sink outcome).store.synchronizers = outcome.workspace.synchronizers := by
  unfold Store.follow
  cases outcome.request <;> rfl

theorem kept_resumeTag (kept : Synchronizer.Kept property) {call : TagCall}
    (all : store.synchronizers.All property)
    (resumed : context.resumeTag store sink call = .ok progress) :
    progress.store.synchronizers.All property := by
  rw [← synchronizers_settlePlan store call.plan] at all
  unfold resumeTag at resumed
  split at resumed
  · next settled =>
      rw [settled] at all
      cases resumed
      exact all
  · next settledStore done settled =>
      rw [settled] at all
      obtain ⟨outcome, performed, rfl⟩ := map_eq_ok.mp resumed
      rw [synchronizers_follow]
      have all : (settledStore.workspace sink).synchronizers.All property := all
      exact Invocation.kept_perform kept _ all _ outcome performed

theorem synchronizers_resumeSubroutine (call : SubroutineCall) :
    (context.resumeSubroutine store call).store.synchronizers = store.synchronizers := by
  rw [← synchronizers_settlePlan store call.plan]
  unfold resumeSubroutine
  split <;> next settled => rw [settled]; rfl

theorem synchronizers_replaceNext (replacement : Replacement) :
    (context.replaceNext store sink replacement).store.synchronizers = store.synchronizers := by
  unfold replaceNext
  split
  · exact Workspace.synchronizers_write _ _
  · rfl

theorem synchronizers_settleArithmetic {workspace changed : Workspace} {isStatement : Bool}
    {position : Pattern.Position} {text : String}
    (settled : context.settleArithmetic workspace isStatement position text = .ok changed) :
    changed.synchronizers = workspace.synchronizers := by
  unfold settleArithmetic at settled
  split at settled
  · cases settled
  · cases settled
    split
    · rfl
    · exact Workspace.synchronizers_write _ _

/-- Going on with a task does nothing to synchronizers but make and use them. -/
theorem kept_resume (kept : Synchronizer.Kept property) {task : Task}
    (all : store.synchronizers.All property)
    (resumed : context.resume store sink task = .ok progress) :
    progress.store.synchronizers.All property := by
  cases task with
  | takeTurn =>
      cases resumed
      exact kept_takeTurn kept all
  | callTag call => exact kept_resumeTag kept all resumed
  | callSubroutine call =>
      cases resumed
      rwa [synchronizers_resumeSubroutine]
  | findMatches regex code | replaceMatches replacement =>
      cases resumed
      rwa [synchronizers_replaceNext]
  | runGenerated =>
      obtain ⟨code, -, rfl⟩ := map_eq_ok.mp resumed
      exact all
  | settleArithmetic isStatement position =>
      obtain ⟨workspace, settled, rfl⟩ := map_eq_ok.mp resumed
      exact (synchronizers_settleArithmetic settled).symm ▸ all
  | defineGenerated name parameters =>
      obtain ⟨workspace, defined, rfl⟩ := map_eq_ok.mp resumed
      obtain ⟨pattern, -, rfl⟩ := map_eq_ok.mp defined
      exact all

theorem synchronizers_begin (construct : Construct) :
    (context.begin store depth construct).store.synchronizers = store.synchronizers := by
  cases construct <;> rfl

theorem synchronizers_complete (context : Context) (store : Store) (sink : Nat)
    (completion : Completion) :
    (context.complete store sink completion).store.synchronizers = store.synchronizers := by
  cases completion with
  | dropComparison | dropBindings => rfl
  | settleTrial fallback blankIsEmpty =>
      unfold complete
      dsimp only
      split <;> rfl

end Context

section Stepping

variable {property : Synchronizer → Prop} {engine : Engine} {pattern : Pattern} {seed : UInt64}
  {store : Store} {top : Activation} {beneath : List Activation} {progress : Progress}
  {configuration reached : Configuration}

namespace Configuration

theorem memory_enterAll {entries : List Entry}
    (entered : enterAll engine entries ⟨store, top :: beneath⟩ = .ok reached) :
    reached.store.toMemory = store.toMemory := by
  induction entries generalizing store top beneath with
  | nil =>
      cases entered
      rfl
  | cons entry entries inductionHypothesis =>
      obtain ⟨higher, first, entered⟩ := bind_eq_ok.mp entered
      obtain ⟨-, rfl⟩ := enter_ok first
      rw [inductionHypothesis entered, Store.provide]
      split <;> rfl

theorem memory_leaveBlock (configuration : Configuration) :
    configuration.leaveBlock.store.toMemory = configuration.store.toMemory := by
  unfold leaveBlock
  dsimp only
  split <;> rfl

/-- Neither entering code nor leaving a block touches the memory. -/
theorem memory_settle (settled : settle engine top beneath progress = .ok reached) :
    reached.store.toMemory = progress.store.toMemory := by
  unfold settle at settled
  cases move : progress.move with
  | enter entries =>
      rw [move] at settled
      exact memory_enterAll settled
  | leaveBlock =>
      rw [move] at settled
      cases settled
      exact memory_leaveBlock _

theorem memory_release (store : Store) (top : Activation) :
    (release store top).toMemory = store.toMemory := by
  unfold release
  split <;> rfl

theorem synchronizers_settle (settled : settle engine top beneath progress = .ok reached) :
    reached.store.synchronizers = progress.store.synchronizers :=
  congrArg Memory.synchronizers (memory_settle settled)

theorem synchronizers_leave (left : leave engine store top beneath = .ok reached) :
    reached.store.synchronizers = store.synchronizers := by
  have released := congrArg Memory.synchronizers (memory_release store top)
  unfold leave at left
  split at left
  · rw [synchronizers_settle left, Context.synchronizers_complete]
    exact released
  · cases left
    exact released

/-- A step does nothing to synchronizers but make and use them. -/
theorem Steps.kept (kept : Synchronizer.Kept property) (steps : Steps engine configuration reached)
    (wellStacked : WellStacked engine configuration)
    (all : configuration.store.synchronizers.All property) :
    reached.store.synchronizers.All property := by
  obtain @⟨store, top, beneath, reached, stepped⟩ := steps
  cases stepped_of_step (wellStacked.ordered.tasks top List.mem_cons_self) stepped with
  | resume task progress tasks resumed settled =>
      rw [synchronizers_settle settled]
      exact Context.kept_resume kept all resumed
  | leave idle ended left =>
      rw [synchronizers_leave left]
      exact all
  | read token stop workspace construct idle next stopped reading settled =>
      rw [synchronizers_settle settled, Context.synchronizers_begin]
      have same := Context.synchronizers_readConstruct _ _ _ _ _ _ reading
      exact same.symm ▸ all

/-- Throughout a run all synchronizers have what no use takes from them. -/
theorem Reachable.kept (kept : Synchronizer.Kept property)
    (reachable : Reachable engine pattern seed configuration) :
    configuration.store.synchronizers.All property := by
  induction reachable with
  | refl => exact Synchronizers.all_fresh seed
  | tail reachable steps inductionHypothesis =>
      exact steps.kept kept (Reachable.wellStacked reachable) inductionHypothesis

/-- Throughout a run all decks are in order. -/
theorem Reachable.dealt (reachable : Reachable engine pattern seed configuration) :
    configuration.store.synchronizers.Dealt :=
  Reachable.kept Synchronizer.kept_dealt reachable

end Configuration

end Stepping

end Machine

end SeededText
