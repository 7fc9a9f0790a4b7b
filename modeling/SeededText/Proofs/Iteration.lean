import SeededText.Proofs.Choices
import SeededText.Proofs.Pieces

/-!
Contract: a block takes its turns in order, each to its end.

Reading a block uses the attributes up that tags have set for it. Then its activation waits for
turns: in each the separator, unless the turn is the first, the code before the item, the item and
the code behind it run one after the other. All that time the repeater says which turn it is, to
whatever code asks that is not in a nested block. Behind the last turn the activation reads on, and
everything is as it was before the block but for what its code has made.

Owns: which blocks are skipped, what the repeater says in a turn, one turn, all turns.
Does not own: running the pieces of a turn (`SeededText.Proofs.Pieces`), that the item is there
(`SeededText.Proofs.Choices`), leaving a block early (`SeededText.Proofs.Breaks`).
-/

namespace SeededText.Machine

open SeededText.Machine.Configuration

/-! ### Turns and what they say -/

namespace BlockAttributes

/-- How many turns a block with so many items has. -/
def turns (attributes : BlockAttributes) (items : Nat) : Nat :=
  match attributes.repetition with
  | .each => items
  | .times count => count

/-- A block is skipped: it has no items or no turns, or chance decides so. -/
def Skips (attributes : BlockAttributes) (items : Nat) (generator : Random.Generator) : Prop :=
  items = 0 ∨ attributes.turns items = 0 ∨
    ∃ chance, attributes.chance? = some chance ∧ chance ≤ (generator.belowWord 100).1

end BlockAttributes

namespace Repeater

/-- A repeater has the pattern and the items of a block, and what tags have set for it. -/
structure IsOf (repeater : Repeater) (pattern : Pattern) (spans : Array Pattern.Span)
    (attributes : BlockAttributes) : Prop where
  pattern : repeater.pattern = pattern
  items : repeater.items = spans
  isEach : repeater.isEach = true ↔ attributes.repetition = .each
  count : repeater.count = attributes.turns spans.size
  separator? : repeater.separator? = attributes.separator?
  before? : repeater.before? = attributes.before?
  after? : repeater.after? = attributes.after?

/-- The repeater in the turn with the given index. -/
def turn (repeater : Repeater) (index : Nat) : Repeater :=
  { repeater with index := index, isStarted := true }

/-- The repeater when the turn with the given index comes next. -/
def awaiting (repeater : Repeater) : Nat → Repeater
  | 0 => repeater
  | index + 1 => repeater.turn index

/-- What runs in a turn: the separator, unless it is the first, and the item between the code before
and after it. -/
def sequence (repeater : Repeater) (index : Nat) (item : Code) : List Code :=
  (if index = 0 then [] else repeater.separator?.toList) ++ repeater.before?.toList ++
    item :: repeater.after?.toList

end Repeater

/-- Whether the turn with the given index passes a test in a block with `count` turns. -/
def TurnTest.passes (index count : Nat) : TurnTest → Bool
  | .first => index = 0
  | .last => index + 1 = count
  | .middle => index ≠ 0 ∧ index + 1 ≠ count
  | .notFirst => index ≠ 0
  | .notLast => index + 1 ≠ count
  | .notMiddle => index = 0 ∨ index + 1 = count
  | .odd => index % 2 = 1
  | .even => index % 2 = 0

namespace Invocation

/-- A text is a count that the settings allow. -/
def Allows (invocation : Invocation) (text : String) (count : Nat) : Prop :=
  Number.readCount? (Text.trimmed text.toList) = some count ∧
    count ≤ invocation.context.engine.settings.maxRepetitions

/-- A call gives an interval and an offset, which is zero if it is left out, and code. -/
inductive AsksNth (invocation : Invocation) : Nat → Nat → Code → Prop where
  | plain {intervalText : String} {interval : Nat} {body : Code}
      (arguments : invocation.arguments = [.value intervalText, .code body])
      (allows : invocation.Allows intervalText interval) : AsksNth invocation interval 0 body
  | shifted {intervalText offsetText : String} {interval offset : Nat} {body : Code}
      (arguments : invocation.arguments = [.value intervalText, .value offsetText, .code body])
      (allows : invocation.Allows intervalText interval)
      (allowsOffset : invocation.Allows offsetText offset) :
      AsksNth invocation interval offset body

end Invocation

/-- Code learns that it runs in the turn with the given index of `count` turns: a tag that tests the
turn asks for its body to be run exactly when the turn passes. -/
structure Scope.TellsTurn (scope : Scope) (index count : Nat) : Prop where
  repeater : ∃ repeater, scope.repeater? = some repeater ∧ repeater.index = index ∧
    repeater.count = count
  tags : ∀ test : TurnTest, resolveTag test.tag 1 = .ok ⟨.whenTurn test, [.code]⟩
  tests : ∀ (invocation : Invocation) (workspace : Workspace) (test : TurnTest) (body : Code),
    invocation.context.scope = scope → invocation.arguments = [.code body] →
    invocation.perform workspace (.whenTurn test) =
      .ok ⟨workspace, if test.passes index count then .run body else .nothing,
        invocation.context.elseArmed⟩
  nthTags : resolveTag "nth" 2 = .ok ⟨.whenNth, [.value, .code]⟩ ∧
    resolveTag "nth" 3 = .ok ⟨.whenNth, [.value, .value, .code]⟩
  nth : ∀ (invocation : Invocation) (workspace : Workspace) (interval offset : Nat) (body : Code),
    invocation.context.scope = scope → 0 < interval → invocation.AsksNth interval offset body →
    invocation.perform workspace .whenNth =
      .ok ⟨workspace, if index % interval = offset then .run body else .nothing,
        invocation.context.elseArmed⟩

namespace Configuration

/-- In the turn with the given index, from `before` to `after`, the block takes an item and runs all
that belongs to the turn. The pieces start at `started`. -/
structure TakesTurn (engine : Engine) (opener : Activation) (lower : List Activation) (close : Nat)
    (repeater : Repeater) (outer : List Repeater) (index choice : Nat) (item : Code)
    (before started after : Configuration) : Prop where
  starts : Steps engine before started
  chooses : (before.store.workspace opener.sink).chooseItem (repeater.turn index) =
    (choice, started.store.workspace opener.sink)
  /-- The item is the chosen one of the block. -/
  found : ∃ span, repeater.items[choice]? = some span ∧ item = ⟨repeater.pattern, span⟩
  /-- A block with a turn for each item takes them in order, and draws neither from a synchronizer
  nor from the generator. -/
  each : repeater.isEach = true →
    choice = index ∧ started.store.toMemory = before.store.toMemory
  attributes : started.store.attributes = before.store.attributes
  begins : started.InTurn (opener.turning close :: lower) (repeater.turn index :: outer)
  runs : RunsInOrder engine (opener.turning close :: lower) (repeater.turn index :: outer)
    opener.sink (repeater.sequence index item) started after
  /-- Outside of nested blocks, code learns which turn it is. -/
  tells : ∀ configuration : Configuration,
    configuration.InTurn (opener.turning close :: lower) (repeater.turn index :: outer) →
    configuration.IsDirectlyIn (opener.turning close :: lower) →
    ∀ top : Activation, (top.context engine configuration.store).scope.TellsTurn index
      repeater.count

/-- The turns from the given index to the last, one behind the other. -/
inductive Iterates (engine : Engine) (opener : Activation) (lower : List Activation) (close : Nat)
    (repeater : Repeater) (outer : List Repeater) : Nat → Configuration → Configuration → Prop where
  | done {configuration : Configuration} :
      Iterates engine opener lower close repeater outer repeater.count configuration configuration
  | turn {index choice : Nat} {item : Code} {before started after last : Configuration}
      (takes : TakesTurn engine opener lower close repeater outer index choice item before started
        after)
      (others : Iterates engine opener lower close repeater outer (index + 1) after last) :
      Iterates engine opener lower close repeater outer index before last

/-- How a run carries out the block between the brace that `opener` is about to read and the one at
`close`. It is at `inside` when the brace has been read. -/
structure CarriesOutBlock (engine : Engine) (opener : Activation) (lower : List Activation)
    (close : Nat) (outside inside : Configuration) : Prop where
  steps : Steps engine outside inside
  /-- The attributes are used up, whether or not the block is entered: the next block has one turn
  and nothing around its item, and chance does not skip it. -/
  attributes : inside.store.attributes = ⟨.times 1, none, none, none, none⟩
  /-- A block that is skipped is left behind at once; at most a number has been drawn for it. -/
  skipped :
    outside.store.attributes.Skips (opener.pattern.itemsBetween opener.cursor close).size
      outside.store.generator →
    inside.stack = opener.behind close :: lower ∧
      inside.store =
        { outside.store with attributes := .standard, generator := inside.store.generator }
  enters :
    ¬ outside.store.attributes.Skips (opener.pattern.itemsBetween opener.cursor close).size
      outside.store.generator →
    EntersBlock engine opener lower close outside inside
  /-- The turns are taken, and the run goes on behind the block with the stacks from before it. -/
  iterates :
    ¬ outside.store.attributes.Skips (opener.pattern.itemsBetween opener.cursor close).size
      outside.store.generator →
    RunsThrough engine (opener.turning close :: lower) inside →
    ∃ repeater last behind,
      repeater = .ofBlock opener.pattern (opener.pattern.itemsBetween opener.cursor close)
        outside.store.attributes ∧
      repeater.IsOf opener.pattern (opener.pattern.itemsBetween opener.cursor close)
        outside.store.attributes ∧
      Iterates engine opener lower close repeater outside.store.repeaters 0 inside last ∧
      Steps engine last behind ∧ behind.stack = opener.behind close :: lower ∧
      behind.store =
        { last.store with repeaters := outside.store.repeaters, bases := outside.store.bases }

end Configuration

/-! ### Repeaters -/

namespace Repeater

variable {repeater : Repeater}

theorem count_ofBlock (pattern : Pattern) (items : Array Pattern.Span)
    (attributes : BlockAttributes) :
    (ofBlock pattern items attributes).count = attributes.turns items.size := by
  unfold BlockAttributes.turns
  cases repeats : attributes.repetition <;> simp [ofBlock, repeats]

theorem isOf_ofBlock (pattern : Pattern) (items : Array Pattern.Span)
    (attributes : BlockAttributes) :
    (ofBlock pattern items attributes).IsOf pattern items attributes where
  pattern := rfl
  items := rfl
  isEach := decide_eq_true_iff
  count := count_ofBlock pattern items attributes
  separator? := rfl
  before? := rfl
  after? := rfl

/-- The repeater of a block with items before its first turn. -/
structure IsFresh (repeater : Repeater) : Prop where
  isStarted : repeater.isStarted = false
  isFinished : repeater.isFinished = false
  items : 0 < repeater.items.size
  each : repeater.isEach = true → repeater.count = repeater.items.size

theorem isFresh_ofBlock (pattern : Pattern) {items : Array Pattern.Span}
    (attributes : BlockAttributes) (some : 0 < items.size) :
    (ofBlock pattern items attributes).IsFresh where
  isStarted := rfl
  isFinished := rfl
  items := some
  each := by
    intro each
    have repeats : attributes.repetition = .each := of_decide_eq_true each
    simp [ofBlock, repeats]

/-- A repeater takes its turns in order. -/
theorem IsFresh.advance (fresh : repeater.IsFresh) {index : Nat} (inside : index < repeater.count) :
    (repeater.awaiting index).advance = (true, repeater.turn index) := by
  cases index with
  | zero =>
      simp [awaiting, Repeater.advance, nextIndex, turn, fresh.isStarted, fresh.isFinished, inside]
  | succ index => simp [awaiting, Repeater.advance, nextIndex, turn, fresh.isFinished, inside]

theorem IsFresh.advance_count (fresh : repeater.IsFresh) :
    (repeater.awaiting repeater.count).advance.1 = false := by
  cases count : repeater.count with
  | zero => simp [awaiting, Repeater.advance, nextIndex, fresh.isStarted, fresh.isFinished, count]
  | succ index => simp [awaiting, Repeater.advance, nextIndex, turn, fresh.isFinished, count]

theorem exists_span_of_item? {choice : Nat} {item : Code}
    (found : repeater.item? choice = some item) :
    ∃ span, repeater.items[choice]? = some span ∧ item = ⟨repeater.pattern, span⟩ := by
  obtain ⟨span, present, same⟩ := Option.map_eq_some_iff.mp found
  exact ⟨span, present, same.symm⟩

theorem pieces_eq {choice : Nat} {item : Code} (found : repeater.item? choice = some item) :
    repeater.pieces choice = repeater.sequence repeater.index item := by
  simp only [pieces, sequence, found]
  cases repeater.index <;> cases repeater.separator? <;> cases repeater.before? <;>
    cases repeater.after? <;> rfl

end Repeater

section Telling

variable {scope : Scope} {repeater : Repeater}

theorem TurnTest.holds_eq (test : TurnTest) :
    test.holds repeater = test.passes repeater.index repeater.count := by
  cases test <;>
    simp [holds, passes, Repeater.isFirst, Repeater.isLast, Repeater.isOdd, Repeater.isEven,
      Bool.beq_eq_decide_eq]

/-- A text that is allowed is read as the count that it is. -/
theorem Invocation.Allows.count {invocation : Invocation} {text : String} {count : Nat}
    (allows : invocation.Allows text count) (what : String) :
    invocation.count what text = .ok count := by
  have within : ¬ invocation.context.engine.settings.maxRepetitions < count :=
    Nat.not_lt.mpr allows.2
  simp only [Invocation.count, require, allows.1, bind, Except.bind, if_neg within]
  rfl

namespace Invocation.AsksNth

variable {invocation : Invocation} {interval offset : Nat} {body : Code}

theorem count_interval (asks : invocation.AsksNth interval offset body) :
    invocation.count "interval" (invocation.text 0) = .ok interval := by
  cases asks with
  | plain arguments allows | shifted arguments allows =>
      simp only [Invocation.text, arguments]
      exact allows.count _

/-- The offset is read from the second of three arguments. -/
theorem count_offset (asks : invocation.AsksNth interval offset body) :
    invocation.arguments.length = 3 ∧
        invocation.count "offset" (invocation.text 1) = .ok offset ∨
      invocation.arguments.length ≠ 3 ∧ offset = 0 := by
  cases asks with
  | plain arguments => exact .inr ⟨by simp [arguments], rfl⟩
  | shifted arguments _ allowsOffset =>
      refine .inl ⟨by simp [arguments], ?_⟩
      simp only [Invocation.text, arguments]
      exact allowsOffset.count _

theorem code_last (asks : invocation.AsksNth interval offset body) :
    invocation.code (invocation.arguments.length - 1) = .ok body := by
  cases asks with
  | plain arguments | shifted arguments => simp [Invocation.code, arguments, Argument.code?]

end Invocation.AsksNth

theorem Scope.tellsTurn (found : scope.repeater? = some repeater) :
    scope.TellsTurn repeater.index repeater.count where
  repeater := ⟨repeater, found, rfl, rfl⟩
  tags test := by cases test <;> rfl
  tests := by
    intro invocation workspace test body same arguments
    have present : invocation.context.scope.repeater? = some repeater := same ▸ found
    have code : invocation.code 0 = .ok body := by
      simp [Invocation.code, arguments, Argument.code?]
    simp only [Invocation.perform, Invocation.whenTurn, Invocation.repeater, Invocation.require,
      present, code, ← TurnTest.holds_eq]
    rfl
  nthTags := ⟨rfl, rfl⟩
  nth := by
    intro invocation workspace interval offset body same positive asks
    have present : invocation.context.scope.repeater? = some repeater := same ▸ found
    have isNth : repeater.isNth offset interval = decide (repeater.index % interval = offset) := by
      simp [Repeater.isNth, positive, Bool.beq_eq_decide_eq]
    have performed : invocation.perform workspace .whenNth =
        .ok (invocation.runIf workspace (repeater.isNth offset interval) body) := by
      have some : interval ≠ 0 := Nat.ne_of_gt positive
      simp only [Invocation.perform, Invocation.whenNth, asks.count_interval, asks.code_last,
        Invocation.repeater, Invocation.require, present, bind, Except.bind, if_neg some]
      rcases asks.count_offset with ⟨three, counted⟩ | ⟨two, rfl⟩
      · rw [if_pos three, counted]
        rfl
      · rw [if_neg two]
        rfl
    rw [performed, isNth]
    simp only [Invocation.runIf, Invocation.ask, decide_eq_true_eq]

end Telling

/-! ### Taking turns -/

section Turning

variable {engine : Engine} {pattern : Pattern} {seed : UInt64} {opener : Activation}
  {lower : List Activation} {close index : Nat} {repeater : Repeater} {outer : List Repeater}
  {inside outside before : Configuration}

theorem Configuration.StaysOpen.reaches {block : List Activation}
    (staysOpen : StaysOpen engine block inside before) : Reaches engine inside before :=
  Relation.ReflTransGen.mono (fun _ _ steps => steps.1) _ _ staysOpen

/-- A block with a turn for each item takes the item of the turn, and nothing is drawn. -/
theorem Workspace.chooseItem_of_each (workspace : Workspace) (each : repeater.isEach = true)
    (inside : index < repeater.items.size) :
    workspace.chooseItem (repeater.turn index) = (index, workspace) := by
  have each : (repeater.turn index).isEach = true := each
  have size : max 1 (repeater.turn index).items.size = repeater.items.size :=
    Nat.max_eq_right (Nat.lt_of_le_of_lt (Nat.zero_le _) inside)
  simp only [chooseItem, each, if_true, size]
  exact congrArg (·, workspace) (Nat.mod_eq_of_lt inside)

theorem Workspace.attributes_chooseItem (workspace : Workspace) (repeater : Repeater) :
    (workspace.chooseItem repeater).2.attributes = workspace.attributes := by
  simp only [chooseItem]
  split
  · rfl
  · split <;> rfl

/-- An open block with the turn at an index next. -/
structure Configuration.AwaitsTurn (engine : Engine) (opener : Activation)
    (lower : List Activation) (close : Nat) (repeater : Repeater) (outer : List Repeater)
    (inside : Configuration) (index : Nat) (configuration : Configuration) : Prop where
  staysOpen : StaysOpen engine (opener.turning close :: lower) inside configuration
  stack : configuration.stack = opener.turning close :: lower
  repeaters : configuration.store.repeaters = repeater.awaiting index :: outer

section Starting

variable {store : Store} {top : Activation} {beneath : List Activation} {turn : Repeater}
  {workspace : Workspace} {choice : Nat} {item : Code} {started : Configuration}

/-- To start a turn is to enter its pieces, the first of them last. -/
theorem Configuration.step_of_turn (tasks : top.tasks = [.takeTurn])
    (repeaters : store.repeaters = repeater :: outer) (turns : repeater.advance = (true, turn))
    (chooses : (store.workspace top.sink).chooseItem turn = (choice, workspace))
    (found : turn.item? choice = some item) :
    step engine store top beneath =
      enterAll engine ((turn.sequence turn.index item).reverse.map .shared)
        ⟨{ store with repeaters := turn :: outer }.absorb top.sink workspace, top :: beneath⟩ := by
  have same : { top with tasks := [.takeTurn] } = top :=
    congrArg (fun tasks => { top with tasks := tasks }) tasks.symm
  rw [step_of_task tasks]
  simp only [Context.resume, Context.takeTurn, repeaters, turns, chooses, Repeater.pieces_eq found]
  show enterAll engine _ ⟨_, { top with tasks := [.takeTurn] } :: beneath⟩ = _
  rw [same]

/-- When a turn has been started, its pieces lie on the block, the first of them on top. -/
theorem Configuration.started_eq (tasks : top.tasks = [.takeTurn])
    (height : beneath.length < heightLimit engine)
    (repeaters : store.repeaters = repeater :: outer) (turns : repeater.advance = (true, turn))
    (chooses : (store.workspace top.sink).chooseItem turn = (choice, workspace))
    (found : turn.item? choice = some item)
    (stepped : step engine store top beneath = .ok started) :
    started =
      ⟨{ store with repeaters := turn :: outer }.absorb top.sink workspace,
        entered (turn.sequence turn.index item) top.sink ++ top :: beneath⟩ := by
  rw [step_of_turn tasks repeaters turns chooses found] at stepped
  have started := (enterAll_shared height stepped).1
  rwa [List.reverse_reverse] at started

end Starting

namespace Configuration.AwaitsTurn

/-- The turn that comes next is taken. -/
theorem exists_takesTurn (reachable : Reachable engine pattern seed inside)
    (runs : RunsThrough engine (opener.turning close :: lower) inside) (fresh : repeater.IsFresh)
    (within : index < repeater.count)
    (awaits : AwaitsTurn engine opener lower close repeater outer inside index before) :
    ∃ choice item started after,
      TakesTurn engine opener lower close repeater outer index choice item before started after ∧
        AwaitsTurn engine opener lower close repeater outer inside (index + 1) after := by
  obtain ⟨staysOpen, stack, repeaters⟩ := awaits
  have beforeReachable : Reachable engine pattern seed before :=
    reachable.trans (StaysOpen.reaches staysOpen)
  have wellStacked := Reachable.wellStacked beforeReachable
  have dealt := Reachable.dealt beforeReachable
  obtain ⟨store, _⟩ := before
  obtain rfl : _ = opener.turning close :: lower := stack
  have repeaters : store.repeaters = repeater.awaiting index :: outer := repeaters
  have turns : (opener.turning close :: lower).countP Activation.takesTurns =
      (repeater.turn index :: outer).length := by
    have length := wellStacked.disciplined.repeaters
    rw [repeaters] at length
    exact length.symm
  obtain ⟨⟨choice, workspace⟩, chooses⟩ :
      ∃ chosen, (store.workspace opener.sink).chooseItem (repeater.turn index) = chosen := ⟨_, rfl⟩
  obtain ⟨item, found⟩ : ∃ item, repeater.item? choice = some item := by
    have some : 0 < (repeater.turn index).items.size := fresh.items
    have chosen := (store.workspace opener.sink).chooseItem_lt dealt some
    rw [chooses] at chosen
    have present : choice < repeater.items.size := chosen
    simp [Repeater.item?, present]
  cases stepped : step engine store (opener.turning close) lower with
  | error fault => exact (runs.succeeds _ fault staysOpen (.failed stepped)).elim
  | ok started =>
      have tasks : (opener.turning close).tasks = [.takeTurn] := rfl
      have same := started_eq tasks wellStacked.height repeaters (fresh.advance within) chooses
        found stepped
      have stack : started.stack = entered (repeater.sequence index item) opener.sink ++
          opener.turning close :: lower := congrArg Configuration.stack same
      have repeats : started.store.repeaters = repeater.turn index :: outer :=
        congrArg (fun started => started.store.repeaters) same
      have startedStacked := wellStacked.step stepped
      have begins := startedStacked.inTurn stack turns (repeats ▸ List.suffix_refl _)
      have during : During engine _ _ inside started :=
        ⟨startedStacked, staysOpen.tail ⟨⟨stepped⟩, ⟨_, stack.symm⟩⟩, begins⟩
      obtain ⟨after, inOrder, onTop, passed⟩ := during.exists_runsInOrder runs turns stack
      have seat : (opener.turning close).sink < store.sinks.size :=
        wellStacked.sink_lt_size (List.suffix_refl _)
      have made : started.store.workspace opener.sink = workspace := by
        rw [same]
        exact Store.workspace_absorb seat workspace
      have memory : started.store.toMemory = workspace.toMemory := congrArg Workspace.toMemory made
      refine ⟨choice, item, started, after, ?_, passed.staysOpen, onTop, ?_⟩
      · exact {
          starts := ⟨stepped⟩
          chooses := by
            rw [made]
            exact chooses
          found := Repeater.exists_span_of_item? found
          each := by
            intro each
            have same := (store.workspace opener.sink).chooseItem_of_each each
              (fresh.each each ▸ within)
            rw [chooses] at same
            cases same
            exact ⟨rfl, memory⟩
          attributes := by
            have same := (store.workspace opener.sink).attributes_chooseItem (repeater.turn index)
            rw [chooses] at same
            exact (congrArg Memory.attributes memory).trans same
          begins := begins
          runs := inOrder
          tells := by
            intro configuration inTurn direct top
            have found : configuration.store.scope.repeater? = some (repeater.turn index) :=
              congrArg List.head? (inTurn.repeaters_eq direct)
            exact Scope.tellsTurn found }
      · exact passed.inTurn.repeaters_eq ⟨[], onTop, by simp⟩

/-- All turns from the next to the last are taken. -/
theorem exists_iterates (reachable : Reachable engine pattern seed inside)
    (runs : RunsThrough engine (opener.turning close :: lower) inside) (fresh : repeater.IsFresh)
    {left : Nat} (within : index + left = repeater.count)
    (awaits : AwaitsTurn engine opener lower close repeater outer inside index before) :
    ∃ last, Iterates engine opener lower close repeater outer index before last ∧
      AwaitsTurn engine opener lower close repeater outer inside repeater.count last := by
  induction left generalizing index before with
  | zero =>
      obtain rfl : index = repeater.count := within
      exact ⟨before, .done, awaits⟩
  | succ left inductionHypothesis =>
      obtain ⟨choice, item, started, after, takes, next⟩ :=
        awaits.exists_takesTurn reachable runs fresh (by omega)
      obtain ⟨last, others, passed⟩ := inductionHypothesis (by omega) next
      exact ⟨last, .turn takes others, passed⟩

/-- Behind the last turn the block is left. -/
theorem steps_behind (fresh : repeater.IsFresh) (idle : opener.tasks = [])
    (awaits : AwaitsTurn engine opener lower close repeater outer inside repeater.count before) :
    Steps engine before
      ⟨{ before.store with repeaters := outer, bases := before.store.bases.tail },
        opener.behind close :: lower⟩ := by
  obtain ⟨store, _⟩ := before
  obtain ⟨-, stack, repeaters⟩ := awaits
  obtain rfl : _ = opener.turning close :: lower := stack
  have repeaters : store.repeaters = repeater.awaiting repeater.count :: outer := repeaters
  have finished : (repeater.awaiting repeater.count).advance =
      (false, (repeater.awaiting repeater.count).advance.2) := Prod.ext fresh.advance_count rfl
  have tasks : (opener.turning close).tasks = [.takeTurn] := rfl
  have behind : (opener.behind close).idle opener.elseArmed = opener.behind close :=
    Activation.idle_eq idle
  constructor
  rw [step_of_task tasks, ← behind]
  simp only [Context.resume, Context.takeTurn, repeaters]
  rw [finished]
  rfl

end Configuration.AwaitsTurn

/-- Behind a block the bases are those from before it. -/
theorem Configuration.tail_bases (outsideStacked : WellStacked engine outside)
    (outsideStack : outside.stack = opener :: lower) (idle : opener.tasks = [])
    (wellStacked : WellStacked engine before)
    (stack : before.stack = opener.turning close :: lower) :
    before.store.bases.tail = outside.store.bases := by
  have turning : (opener.turning close).takesTurns = true := rfl
  have resting : opener.takesTurns = false := by simp [Activation.takesTurns, idle]
  rw [wellStacked.disciplined.bases, outsideStacked.disciplined.bases, stack, outsideStack,
    blockBases, blockBases, turning, resting]
  rfl

end Turning

/-! ### Reading a block -/

/-- Reading a block uses the attributes up and draws at most a number; then the block is entered, if
it is not skipped. -/
theorem Context.readBlock_cases (context : Context) (workspace : Workspace)
    (items : Array Pattern.Span) :
    ∃ generator,
      (workspace.attributes.Skips items.size workspace.generator ∧
        context.readBlock workspace items =
          ({ workspace with attributes := .standard, generator := generator }, .nothing)) ∨
      (¬ workspace.attributes.Skips items.size workspace.generator ∧
        context.readBlock workspace items =
          ({ workspace with attributes := .standard, generator := generator },
            .block (.ofBlock context.pattern items workspace.attributes))) := by
  simp only [readBlock, BlockAttributes.Skips, Repeater.count_ofBlock,
    Array.isEmpty_iff_size_eq_zero]
  by_cases none : items.size = 0
  · exact ⟨workspace.generator, .inl ⟨.inl none, by simp [none]⟩⟩
  · by_cases turns : workspace.attributes.turns items.size = 0
    · cases chance : workspace.attributes.chance? with
      | none => exact ⟨workspace.generator, .inl ⟨.inr (.inl turns), by simp [none, turns]⟩⟩
      | some chance =>
          refine ⟨(workspace.generator.belowWord 100).2, .inl ⟨.inr (.inl turns), ?_⟩⟩
          simp [none, turns]
    · cases chance : workspace.attributes.chance? with
      | none => exact ⟨workspace.generator, .inr ⟨by simp [none, turns], by simp [none, turns]⟩⟩
      | some percent =>
          refine ⟨(workspace.generator.belowWord 100).2, ?_⟩
          by_cases low : percent ≤ (workspace.generator.belowWord 100).1
          · exact .inl ⟨.inr (.inr ⟨percent, rfl, low⟩), by simp [none, low]⟩
          · exact .inr ⟨by simp [none, turns, low], by simp [none, turns, low]⟩

/-- Memory that is taken over from a workspace with the sink unchanged. -/
theorem Store.absorb_memory (store : Store) (sink : Nat) (memory : Memory) :
    store.absorb sink ⟨memory, store.sinkAt sink⟩ = { store with toMemory := memory } := by
  have sinks : store.sinks.setIfInBounds sink (store.sinkAt sink) = store.sinks :=
    congrArg Store.sinks (store.absorb_workspace sink)
  rw [Store.absorb, sinks]

/-! ### Blocks in a run -/

/-- Throughout a run blocks are carried out: a block that is not skipped takes its turns in order,
each to its end, if nothing in it fails or breaks out of it, and then the run goes on behind it. -/
theorem carriesOutBlock_of_reachable {engine : Engine} {pattern : Pattern} {seed : UInt64}
    {opener : Activation} {lower : List Activation} {close : Nat} {token : Pattern.Token}
    {outside : Configuration} (reachable : Reachable engine pattern seed outside)
    (stack : outside.stack = opener :: lower) (idle : opener.tasks = [])
    (next : opener.nextToken? = some token) (brace : token.kind = .opens .brace)
    (closes : opener.pattern.scopeClose opener.cursor = .ok close) :
    ∃ inside, CarriesOutBlock engine opener lower close outside inside := by
  have wellStacked := Reachable.wellStacked reachable
  obtain ⟨store, _⟩ := outside
  obtain rfl : _ = opener :: lower := stack
  let context := opener.context engine store
  let items := opener.pattern.itemsBetween opener.cursor close
  have stopped : context.constructStop opener.cursor token = .ok (close + 1) :=
    Context.constructStop_of_close brace closes
  have read : context.readConstruct (store.workspace opener.sink) opener.cursor (close + 1) token =
      .ok (context.readBlock (store.workspace opener.sink) items) := by
    simp only [Context.readConstruct, brace]
    rfl
  obtain ⟨generator, ⟨skips, reading⟩ | ⟨enters, reading⟩⟩ :=
    context.readBlock_cases (store.workspace opener.sink) items
  · rw [reading] at read
    have behind : (opener.behind close).idle opener.elseArmed = opener.behind close :=
      Activation.idle_eq idle
    have absorbed := store.absorb_memory opener.sink
      { store.toMemory with attributes := .standard, generator := generator }
    have steps : Steps engine ⟨store, opener :: lower⟩
        ⟨{ store with attributes := .standard, generator := generator },
          opener.behind close :: lower⟩ := by
      refine .of_read idle next stopped read ?_
      rw [← behind, ← absorbed]
      rfl
    exact ⟨_, {
      steps := steps
      attributes := rfl
      skipped := fun _ => ⟨rfl, rfl⟩
      enters := fun enters => absurd skips enters
      iterates := fun enters => absurd skips enters }⟩
  · rw [reading] at read
    let workspace : Workspace :=
      { store.workspace opener.sink with attributes := .standard, generator := generator }
    let repeater := Repeater.ofBlock opener.pattern items store.attributes
    let inside : Configuration :=
      ⟨(store.absorb opener.sink workspace).inBlock lower.length repeater,
        opener.turning close :: lower⟩
    have steps : Steps engine ⟨store, opener :: lower⟩ inside :=
      .of_read idle next stopped read rfl
    have some : 0 < items.size := Nat.pos_of_ne_zero fun none => enters (.inl none)
    have fresh : repeater.IsFresh := Repeater.isFresh_ofBlock _ _ some
    refine ⟨inside, {
      steps := steps
      attributes := rfl
      skipped := fun skips => absurd skips enters
      enters := fun _ => ⟨steps, rfl, idle, ⟨token, next, brace⟩, closes,
        brace_of_scopeClose next brace closes, rfl, workspace, rfl⟩
      iterates := ?_ }⟩
    intro _ runs
    have insideReachable : Reachable engine pattern seed inside := reachable.tail steps
    have awaits : AwaitsTurn engine opener lower close repeater store.repeaters inside 0 inside :=
      ⟨.refl, rfl, rfl⟩
    obtain ⟨last, iterates, passed⟩ :=
      awaits.exists_iterates insideReachable runs fresh (Nat.zero_add _)
    have lastStacked := Reachable.wellStacked (insideReachable.trans passed.staysOpen.reaches)
    refine ⟨repeater, last, _, rfl, Repeater.isOf_ofBlock _ _ _, iterates,
      passed.steps_behind fresh idle, rfl, ?_⟩
    rw [tail_bases wellStacked rfl idle lastStacked passed.stack]

/-! ### A block of two items

The tags before the block ask for a turn for each item, and for a letter between two turns. -/

namespace TwoItems

open Pattern

/-- The pattern `[rep:each][sep:z]\x7bx|y\x7d`. -/
def pattern : Pattern where
  name := "pair"
  source := "[rep:each][sep:z]\x7bx|y\x7d"
  tokens := #[⟨.opens .square, "[", .start⟩, ⟨.text, "rep", .start⟩, ⟨.colon, ":", .start⟩,
    ⟨.text, "each", .start⟩, ⟨.closes .square, "]", .start⟩, ⟨.opens .square, "[", .start⟩,
    ⟨.text, "sep", .start⟩, ⟨.colon, ":", .start⟩, ⟨.text, "z", .start⟩,
    ⟨.closes .square, "]", .start⟩, ⟨.opens .brace, "\x7b", .start⟩, ⟨.text, "x", .start⟩,
    ⟨.bar, "|", .start⟩, ⟨.text, "y", .start⟩, ⟨.closes .brace, "\x7d", .start⟩]

/-- The pattern read up to a token. -/
def reader (cursor : Nat) : Activation :=
  { Activation.enter (.shared (.whole pattern)) 0 with cursor := cursor }

/-- The pattern behind its tags. -/
def opener : Activation :=
  reader 10

/-- The pattern read up to a token, with a call of a tag that has one argument. -/
def caller (cursor : Nat) (operation : TagOperation) (argument : PlannedArgument) : Activation :=
  { reader cursor with tasks := [.callTag ⟨operation, .start, .start [argument]⟩] }

/-- The first tag has been carried out. -/
def between : Configuration :=
  ⟨{ Store.fresh .standard 0 with attributes := ⟨.each, none, none, none, none⟩ }, [reader 5]⟩

def letter : Code := ⟨pattern, 8, 9⟩

/-- The block comes next. -/
def outside : Configuration :=
  ⟨{ Store.fresh .standard 0 with attributes := ⟨.each, some letter, none, none, none⟩ }, [opener]⟩

def repeater : Repeater where
  pattern := pattern
  items := #[⟨11, 12⟩, ⟨13, 14⟩]
  isEach := true
  count := 2
  index := 0
  isStarted := false
  isFinished := false
  separator? := some letter
  before? := none
  after? := none

/-- The workspace when the first item has been written. -/
def written : Workspace :=
  (Workspace.fresh .standard 0).write "x"

/-- The block when the turn at an index comes next. -/
def awaiting (workspace : Workspace) (index : Nat) : Configuration :=
  ⟨((Store.fresh .standard 0).absorb 0 workspace).inBlock 0 (repeater.awaiting index),
    [opener.turning 14]⟩

/-- A letter of the block that is read up to a token. -/
def piece (start cursor : Nat) : Activation :=
  { Activation.enter (.shared ⟨pattern, start, start + 1⟩) 0 with cursor := cursor }

/-- The turn at an index, with pieces of it on the stack. -/
def turn (workspace : Workspace) (index : Nat) (pieces : List Activation) : Configuration :=
  ⟨((Store.fresh .standard 0).absorb 0 workspace).inBlock 0 (repeater.turn index),
    pieces ++ [opener.turning 14]⟩

theorem scopeClose_brace : pattern.scopeClose 10 = .ok 14 := by
  simp [Pattern.scopeClose, Pattern.closeFrom, pattern]

theorem itemsBetween_braces : pattern.itemsBetween 10 14 = #[⟨11, 12⟩, ⟨13, 14⟩] := by
  decide +kernel

/-- A tag with one argument is read. -/
theorem readConstruct_tag {context : Context} {start : Nat} {name : Token} {signature : Signature}
    (workspace : Workspace) (same : context.pattern = pattern)
    (found : pattern.tokens[start + 1]? = some name) (kind : name.kind = .text)
    (colon : pattern.tokens[start + 2]? = some ⟨.colon, ":", .start⟩)
    (blanks : pattern.skipBlanks (start + 1) (start + 4) = start + 1 ∧
      pattern.skipBlanks (start + 2) (start + 4) = start + 2)
    (split : pattern.splitTrimmed ⟨start + 3, start + 4⟩ .semicolon = [⟨start + 3, start + 4⟩])
    (isName : isName name.value = true) (resolved : resolveTag name.value 1 = .ok signature) :
    context.readConstruct workspace start (start + 5) ⟨.opens .square, "[", .start⟩ =
      .ok (workspace, .tag signature.operation .start (ArgumentPlan.ofParameters
        [⟨pattern, start + 3, start + 4⟩] signature.parameters)) := by
  have spans : context.argumentSpans (start + 2) (start + 4) name.value =
      .ok [⟨start + 3, start + 4⟩] := by
    simp [Context.argumentSpans, same, blanks, colon, split]
  simp [Context.readConstruct, Context.readTag, Context.callTag, same, blanks, found, kind, isName,
    spans, resolved, bind, Except.bind, pure, Except.pure]

theorem steps_repetition : Steps .standard (.start .standard pattern 0)
    ⟨.fresh .standard 0, [caller 5 .setRepetition ⟨⟨pattern, 3, 4⟩, false⟩]⟩ := by
  have closes : pattern.scopeClose 0 = .ok 4 := by
    simp [Pattern.scopeClose, Pattern.closeFrom, pattern]
  exact .of_read rfl rfl (Context.constructStop_of_close rfl closes)
    (readConstruct_tag _ rfl rfl rfl rfl (by decide +kernel) (by decide +kernel) (by decide) rfl)
    rfl

theorem steps_between :
    Steps .standard ⟨.fresh .standard 0, [caller 5 .setRepetition ⟨⟨pattern, 3, 4⟩, false⟩]⟩
      between := by
  let plan : ArgumentPlan := .start [⟨⟨pattern, 3, 4⟩, false⟩]
  have each : Text.lowerAscii (Text.trim "each") = "each" := by decide
  have repeats (context : Context) :
      Invocation.repetition (.mk context .start [.value "each"]) = .ok .each := by
    have value : Invocation.trimmedText (.mk context .start [.value "each"]) 0 =
        Text.trim "each" := rfl
    simp only [Invocation.repetition, value, each, if_true]
    rfl
  have verbatim : (Code.mk pattern ⟨3, 4⟩).isVerbatim = true := by
    rw [Code.isVerbatim, ← Array.all_toList]
    rfl
  have text : (Code.mk pattern ⟨3, 4⟩).text = "each" := rfl
  have settled (store : Store) : store.settlePlan plan = (store, [.value "each"], none) := by
    simp [Store.settlePlan, plan, ArgumentPlan.start, ArgumentPlan.settle, verbatim, text]
  have resumed (context : Context) (idle : context.elseArmed = false) :
      context.resume (.fresh .standard 0) 0 (.callTag ⟨.setRepetition, .start, plan⟩) =
        .ok ⟨between.store, .enter [], false, none⟩ := by
    simp only [Context.resume, Context.resumeTag, settled, Invocation.perform, repeats]
    rw [← idle]
    rfl
  exact .of_resume rfl (resumed _ rfl) rfl

theorem steps_separator :
    Steps .standard between ⟨between.store, [caller 10 .setSeparator ⟨letter, true⟩]⟩ := by
  have closes : pattern.scopeClose 5 = .ok 9 := by
    simp [Pattern.scopeClose, Pattern.closeFrom, pattern]
  exact .of_read rfl rfl (Context.constructStop_of_close rfl closes)
    (readConstruct_tag _ rfl rfl rfl rfl (by decide +kernel) (by decide +kernel) (by decide) rfl)
    rfl

theorem reachable_outside : Reachable .standard pattern 0 outside := by
  have set : Steps .standard ⟨between.store, [caller 10 .setSeparator ⟨letter, true⟩]⟩ outside :=
    ⟨rfl⟩
  exact .tail (.tail (.tail (.single steps_repetition) steps_between) steps_separator) set

theorem readConstruct_block {context : Context} (workspace : Workspace)
    (same : context.pattern = pattern)
    (attributes : workspace.attributes = outside.store.attributes) :
    context.readConstruct workspace 10 15 ⟨.opens .brace, "\x7b", .start⟩ =
      .ok ({ workspace with attributes := .standard }, .block repeater) := by
  have items : pattern.itemsBetween 10 (15 - 1) = #[⟨11, 12⟩, ⟨13, 14⟩] := itemsBetween_braces
  simp only [Context.readConstruct, Context.readBlock, same, items, attributes]
  rfl

theorem steps_awaiting : Steps .standard outside (awaiting (.fresh .standard 0) 0) :=
  .of_read rfl rfl (Context.constructStop_of_close rfl scopeClose_brace)
    (readConstruct_block _ rfl rfl) rfl

theorem not_skips : ¬ outside.store.attributes.Skips (pattern.itemsBetween 10 14).size
    outside.store.generator := by
  rw [itemsBetween_braces]
  rintro (none | none | ⟨chance, some, -⟩)
  · cases none
  · cases none
  · cases some

/-- Both turns are taken, and nothing in them fails or breaks out. -/
theorem runsThrough :
    RunsThrough .standard [opener.turning 14] (awaiting (.fresh .standard 0) 0) := by
  have reads (workspace : Workspace) (index start cursor : Nat) (others : List Activation) :
      ¬ (turn workspace index (piece start cursor :: others)).IsAtBreak := not_isAtBreak nofun
  have waits (workspace : Workspace) (index : Nat) : ¬ (awaiting workspace index).IsAtBreak :=
    not_isAtBreak nofun
  have first : Steps .standard (awaiting (.fresh .standard 0) 0)
      (turn (.fresh .standard 0) 0 [piece 11 11]) := ⟨rfl⟩
  have x : Steps .standard (turn (.fresh .standard 0) 0 [piece 11 11])
      (turn written 0 [piece 11 12]) := ⟨rfl⟩
  have again : Steps .standard (turn written 0 [piece 11 12]) (awaiting written 1) := ⟨rfl⟩
  have second : Steps .standard (awaiting written 1)
      (turn written 1 [piece 8 8, piece 13 13]) := ⟨rfl⟩
  have z (workspace : Workspace) : Steps .standard (turn workspace 1 [piece 8 8, piece 13 13])
      (turn (workspace.write "z") 1 [piece 8 9, piece 13 13]) := ⟨rfl⟩
  have next (workspace : Workspace) : Steps .standard (turn workspace 1 [piece 8 9, piece 13 13])
      (turn workspace 1 [piece 13 13]) := ⟨rfl⟩
  have y (workspace : Workspace) : Steps .standard (turn workspace 1 [piece 13 13])
      (turn (workspace.write "y") 1 [piece 13 14]) := ⟨rfl⟩
  have after (workspace : Workspace) :
      Steps .standard (turn workspace 1 [piece 13 14]) (awaiting workspace 2) := ⟨rfl⟩
  have left (workspace : Workspace) : Steps .standard (awaiting workspace 2)
      ⟨(Store.fresh .standard 0).absorb 0 workspace, [opener.behind 14]⟩ := ⟨rfl⟩
  have gone : ¬ [opener.turning 14] <:+ [opener.behind 14] := by
    intro present
    cases present.eq_of_length rfl
  apply RunsThrough.of_steps first (waits _ _)
  apply RunsThrough.of_steps x (reads _ _ _ _ _)
  apply RunsThrough.of_steps again (reads _ _ _ _ _)
  apply RunsThrough.of_steps second (waits _ _)
  apply RunsThrough.of_steps (z _) (reads _ _ _ _ _)
  apply RunsThrough.of_steps (next _) (reads _ _ _ _ _)
  apply RunsThrough.of_steps (y _) (reads _ _ _ _ _)
  apply RunsThrough.of_steps (after _) (reads _ _ _ _ _)
  exact .of_leaves (left _) (waits _ _) gone

/-- In the second turn the letter between the items runs, and then the second item. -/
theorem exists_runsInOrder {inside last : Configuration}
    (iterates : Iterates .standard opener [] 14 repeater [] 0 inside last) :
    ∃ started, RunsInOrder .standard [opener.turning 14] [repeater.turn 1] 0
      [letter, ⟨pattern, 13, 14⟩] started last := by
  cases iterates with
  | turn _ others =>
      cases others with
      | @turn _ choice item _ started _ _ takes others =>
          obtain ⟨span, present, rfl⟩ := takes.found
          obtain rfl : choice = 1 := (takes.each rfl).1
          cases present
          cases others with
          | done => exact ⟨started, takes.runs⟩
          | @turn _ choice _ _ _ _ _ takes _ =>
              -- There is no third item.
              obtain ⟨_, present, -⟩ := takes.found
              obtain rfl : choice = 2 := (takes.each rfl).1
              cases present

/-- The block takes its two turns, with the letter between them, and then the pattern is at its
end. -/
theorem carriesOutBlock_outside :
    Reachable .standard pattern 0 outside ∧
      CarriesOutBlock .standard opener [] 14 outside (awaiting (.fresh .standard 0) 0) ∧
      repeater.IsOf pattern #[⟨11, 12⟩, ⟨13, 14⟩] outside.store.attributes ∧
      ∃ started last behind,
        Iterates .standard opener [] 14 repeater [] 0 (awaiting (.fresh .standard 0) 0) last ∧
        RunsInOrder .standard [opener.turning 14] [repeater.turn 1] 0
          [letter, ⟨pattern, 13, 14⟩] started last ∧
        Steps .standard last behind ∧ behind.stack = [opener.behind 14] := by
  obtain ⟨inside, carries⟩ :=
    carriesOutBlock_of_reachable reachable_outside rfl rfl rfl rfl scopeClose_brace
  obtain rfl := carries.steps.deterministic steps_awaiting
  obtain ⟨_, last, behind, rfl, isOf, iterates, left, stack, -⟩ :=
    carries.iterates not_skips runsThrough
  have items : pattern.itemsBetween opener.cursor 14 = #[⟨11, 12⟩, ⟨13, 14⟩] := itemsBetween_braces
  have same : Repeater.ofBlock opener.pattern (opener.pattern.itemsBetween opener.cursor 14)
      outside.store.attributes = repeater := by
    rw [show opener.pattern = pattern from rfl, items]
    rfl
  rw [same] at isOf iterates
  obtain ⟨started, runs⟩ := exists_runsInOrder iterates
  exact ⟨reachable_outside, carries, items ▸ isOf, started, last, behind, iterates, runs, left,
    stack⟩

end TwoItems

end SeededText.Machine
