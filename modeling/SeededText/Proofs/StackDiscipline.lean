import SeededText.Proofs.Runs

/-!
Contract: the stacks of a run fit together in every configuration that it passes through.

Each of the parallel stacks is described by the stack of activations alone: which sinks there are
and who writes to them, what waits to be dropped, where blocks were entered and what was on the
stacks then.

Owns: the description of all stacks, that it holds throughout a run.
Does not own: the invariant that steps keep (`SeededText.Machine.Discipline`).
-/

namespace SeededText.Machine

/-- Heights of the stacks that belong to the activations of a stack; results belong to none. -/
def heightsOf (stack : List Activation) : Heights where
  comparisons := stack.countP (Activation.drops .dropComparison)
  bindings := stack.countP (Activation.drops .dropBindings)
  matchStack := stack.countP Activation.isReplacing
  results := 0

/-- For each activation that takes turns its index and the heights of what lies beneath and with
it. -/
def blockBases : List Activation → List Base
  | [] => []
  | top :: beneath =>
      if top.takesTurns then ⟨beneath.length, heightsOf (top :: beneath)⟩ :: blockBases beneath
      else blockBases beneath

/-- How the stacks of a run belong together. -/
structure Disciplined (engine : Engine) (configuration : Configuration) : Prop where
  /-- There is the sink of the run, and one for each activation that owns one. -/
  sinks : configuration.store.sinks.size = 1 + configuration.stack.countP Activation.ownsSink
  /-- An activation writes to the sink of the highest owner that is not above it. -/
  sinkIndex : ∀ activation beneath, (activation :: beneath) <:+ configuration.stack →
    activation.sink = (activation :: beneath).countP Activation.ownsSink
  bindings : configuration.store.bindings.length =
    configuration.stack.countP (Activation.drops .dropBindings)
  comparisons : configuration.store.comparisons.length =
    configuration.stack.countP (Activation.drops .dropComparison)
  matchStack : configuration.store.matchStack.length =
    configuration.stack.countP Activation.isReplacing
  repeaters : configuration.store.repeaters.length =
    configuration.stack.countP Activation.takesTurns
  /-- The bases are those of the activations that take turns, in the same order. -/
  bases : configuration.store.bases = blockBases configuration.stack
  basesLength : configuration.store.bases.length =
    configuration.stack.countP Activation.takesTurns
  /-- Blocks that were entered later were entered from higher up; the top comes first. -/
  depths : (configuration.store.bases.map Base.depth).Pairwise (· > ·)
  tasks : ∀ activation ∈ configuration.stack, activation.tasks.length ≤ 1
  results : configuration.store.results.length ≤ 1
  /-- A result is there only for the task of the activation on top. -/
  resultTaken : configuration.store.results ≠ [] → ∃ top beneath task,
    configuration.stack = top :: beneath ∧ top.tasks = [task] ∧ task.takesResult = true
  height : configuration.stack.length ≤ max 1 engine.settings.maxStackDepth

/-! ### Shapes as counts -/

section Counting

variable {engine : Engine} {configuration : Configuration} {stack beneath : List Activation}
  {activation : Activation}

/-- The shape of a stack without its bases. -/
theorem shapeOf_counts (stack : List Activation) :
    (shapeOf stack).comparisons = stack.countP (Activation.drops .dropComparison) ∧
      (shapeOf stack).bindings = stack.countP (Activation.drops .dropBindings) ∧
      (shapeOf stack).matchStack = stack.countP Activation.isReplacing ∧
      (shapeOf stack).repeaters = stack.countP Activation.takesTurns := by
  induction stack with
  | nil => exact ⟨rfl, rfl, rfl, rfl⟩
  | cons top beneath inductionHypothesis =>
      obtain ⟨comparisons, bindings, matchStack, repeaters⟩ := inductionHypothesis
      simp only [shapeOf_cons, Shape.keep, Shape.queue, countP_cons_eq_toNat_add, comparisons,
        bindings, matchStack, repeaters, Activation.isReplacing, Activation.takesTurns]
      omega

theorem shapeOf_heights (stack : List Activation) : (shapeOf stack).heights = heightsOf stack := by
  obtain ⟨comparisons, bindings, matchStack, -⟩ := shapeOf_counts stack
  simp only [Shape.heights, heightsOf, comparisons, bindings, matchStack]

theorem shapeOf_bases (stack : List Activation) : (shapeOf stack).bases = blockBases stack := by
  induction stack with
  | nil => rfl
  | cons top beneath inductionHypothesis =>
      rw [blockBases, ← shapeOf_heights]
      simp only [shapeOf_cons, Shape.keep, Shape.queue, inductionHypothesis, Activation.takesTurns,
        Shape.heights]

theorem length_blockBases (stack : List Activation) :
    (blockBases stack).length = stack.countP Activation.takesTurns := by
  induction stack with
  | nil => rfl
  | cons top beneath inductionHypothesis =>
      rw [blockBases, List.countP_cons]
      split <;> simp [inductionHypothesis]

theorem depth_lt_of_mem_blockBases {base : Base} (member : base ∈ blockBases stack) :
    base.depth < stack.length := by
  induction stack with
  | nil => simp [blockBases] at member
  | cons top beneath inductionHypothesis =>
      rw [blockBases] at member
      rw [List.length_cons]
      split at member
      · rcases List.mem_cons.mp member with same | lower
        · rw [same]
          exact Nat.lt_succ_self _
        · exact Nat.lt_succ_of_lt (inductionHypothesis lower)
      · exact Nat.lt_succ_of_lt (inductionHypothesis member)

theorem pairwise_depth_blockBases (stack : List Activation) :
    ((blockBases stack).map Base.depth).Pairwise (· > ·) := by
  induction stack with
  | nil => exact .nil
  | cons top beneath inductionHypothesis =>
      rw [blockBases]
      split
      · refine List.pairwise_cons.mpr ⟨?_, inductionHypothesis⟩
        intro depth member
        obtain ⟨base, lower, rfl⟩ := List.mem_map.mp member
        exact depth_lt_of_mem_blockBases lower
      · exact inductionHypothesis

theorem Indexed.sink_eq (indexed : Indexed stack) (suffix : (activation :: beneath) <:+ stack) :
    activation.sink = (activation :: beneath).countP Activation.ownsSink := by
  obtain ⟨above, rfl⟩ := suffix
  induction above with
  | nil =>
      have sinks := indexed.1
      rw [shapeOf_sinks] at sinks
      exact Nat.succ.inj sinks
  | cons top above inductionHypothesis => exact inductionHypothesis indexed.2

theorem awaited_le (stack : List Activation) : awaited stack ≤ 1 := by
  cases stack with
  | nil => exact Nat.zero_le 1
  | cons top beneath => exact Bool.toNat_le _

/-- A result that is awaited is taken by the task of the activation on top. -/
theorem taken_of_awaited (waiting : awaited stack ≠ 0)
    (short : ∀ activation ∈ stack, activation.tasks.length ≤ 1) :
    ∃ top beneath task, stack = top :: beneath ∧ top.tasks = [task] ∧
      task.takesResult = true := by
  cases stack with
  | nil => exact absurd rfl waiting
  | cons top beneath =>
      have atMost := short top List.mem_cons_self
      have awaits : top.awaitsResult = true := by
        cases idle : top.awaitsResult with
        | true => rfl
        | false => exact absurd (congrArg Bool.toNat idle) waiting
      obtain ⟨task, member, takes⟩ := List.any_eq_true.mp awaits
      obtain ⟨only, tasks⟩ := List.length_eq_one_iff.mp
        (Nat.le_antisymm atMost (List.length_pos_of_mem member))
      rw [tasks, List.mem_singleton] at member
      exact ⟨top, beneath, task, rfl, member ▸ tasks, takes⟩

/-- What the invariant of steps says of the single stacks. -/
theorem WellStacked.disciplined (wellStacked : WellStacked engine configuration) :
    Disciplined engine configuration := by
  obtain ⟨ordered, shape, results, height⟩ := wellStacked
  obtain ⟨comparisons, bindings, matchStack, repeaters⟩ := shapeOf_counts configuration.stack
  have sinks := shapeOf_sinks configuration.stack
  have bases := shapeOf_bases configuration.stack
  rw [← shape] at comparisons bindings matchStack repeaters sinks bases
  refine ⟨?_, fun activation beneath => ordered.indexed.sink_eq, bindings, comparisons, matchStack,
    repeaters, bases, ?_, ?_, ordered.tasks, ?_, ?_, height⟩
  · rw [Nat.add_comm]
    exact sinks
  · rw [← length_blockBases, ← bases]
    rfl
  · have pairwise := pairwise_depth_blockBases configuration.stack
    rw [← bases] at pairwise
    exact pairwise
  · rw [results]
    exact awaited_le configuration.stack
  · intro some
    have waiting : awaited configuration.stack ≠ 0 := by
      rw [← results]
      exact fun none => some (List.eq_nil_of_length_eq_zero none)
    exact taken_of_awaited waiting ordered.tasks

end Counting

/-! ### Runs -/

/-- Throughout a run its stacks belong together. -/
theorem disciplined_of_reachable {engine : Engine} {pattern : Pattern} {seed : UInt64}
    {configuration : Configuration}
    (reachable : Configuration.Reachable engine pattern seed configuration) :
    Disciplined engine configuration :=
  (Configuration.Reachable.wellStacked reachable).disciplined

/-! ### A block inside arithmetic

The arithmetic runs its source into a sink of its own, and waits for it; the source is a block,
which is entered from there. -/

namespace BlockInArithmetic

open Pattern

/-- The pattern `(\x7b1\x7d)`. -/
def pattern : Pattern where
  name := "sum"
  source := "(\x7b1\x7d)"
  tokens := #[⟨.opens .round, "(", .start⟩, ⟨.opens .brace, "\x7b", .start⟩,
    ⟨.text, "1", .start⟩, ⟨.closes .brace, "\x7d", .start⟩, ⟨.closes .round, ")", .start⟩]

/-- The pattern waits for the value of its arithmetic. -/
def arithmetic : Activation :=
  { Activation.enter (.shared (.whole pattern)) 0 with
    cursor := 5, tasks := [.settleArithmetic false .start] }

/-- The source of the arithmetic before its first token. -/
def source : Activation :=
  .enter (.apart ⟨pattern, 1, 4⟩) 1

def sourceEntered : Configuration :=
  ⟨{ Store.fresh .standard 0 with sinks := #[.fresh, .fresh] }, [source, arithmetic]⟩

/-- The block is entered, and its first turn comes next. -/
def blockEntered : Configuration :=
  ⟨{ sourceEntered.store with
      repeaters := [.ofBlock pattern #[⟨2, 3⟩] .standard], bases := [⟨1, 0, 0, 0, 0⟩] },
    [{ source with cursor := 4, tasks := [.takeTurn] }, arithmetic]⟩

theorem readConstruct_arithmetic (context : Context) (workspace : Workspace)
    (same : context.pattern = pattern) :
    context.readConstruct workspace 0 5 ⟨.opens .round, "(", .start⟩ =
      .ok (workspace, .arithmetic false .start ⟨pattern, 1, 4⟩) := by
  have first : pattern.skipBlanks 1 4 = 1 := by
    rw [Pattern.skipBlanks]
    rfl
  simp only [Context.readConstruct, Context.readArithmetic, same, first]
  rfl

theorem readConstruct_block (context : Context) (workspace : Workspace)
    (same : context.pattern = pattern) (standard : workspace.attributes = .standard) :
    context.readConstruct workspace 1 4 ⟨.opens .brace, "\x7b", .start⟩ =
      .ok ({ workspace with attributes := .standard },
        .block (.ofBlock pattern #[⟨2, 3⟩] .standard)) := by
  have items : pattern.itemsBetween 1 3 = #[⟨2, 3⟩] := by
    simp [Pattern.itemsBetween, Pattern.trimSpan, Pattern.skipBlanks, Pattern.split,
      Pattern.splitFrom, Pattern.kindAt?, pattern]
    rfl
  simp only [Context.readConstruct, Context.readBlock, same, items, standard]
  rfl

theorem steps_sourceEntered :
    Configuration.Steps .standard (.start .standard pattern 0) sourceEntered := by
  have closes : pattern.scopeClose 0 = .ok 4 := by
    simp [Pattern.scopeClose, Pattern.closeFrom, pattern]
  exact .of_read rfl rfl (Context.constructStop_of_close rfl closes)
    (readConstruct_arithmetic _ _ rfl) rfl

theorem steps_blockEntered : Configuration.Steps .standard sourceEntered blockEntered := by
  have closes : pattern.scopeClose 1 = .ok 3 := by
    simp [Pattern.scopeClose, Pattern.closeFrom, pattern]
  exact .of_read rfl rfl (Context.constructStop_of_close rfl closes)
    (readConstruct_block _ _ rfl rfl) rfl

theorem reachable_blockEntered : Configuration.Reachable .standard pattern 0 blockEntered :=
  .tail (.single steps_sourceEntered) steps_blockEntered

theorem disciplined_blockEntered :
    Configuration.Reachable .standard pattern 0 blockEntered ∧
      Disciplined .standard blockEntered :=
  ⟨reachable_blockEntered, disciplined_of_reachable reachable_blockEntered⟩

end BlockInArithmetic

end SeededText.Machine
