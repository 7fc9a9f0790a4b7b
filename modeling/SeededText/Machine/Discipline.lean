import SeededText.Machine.Step

/-!
Contract: how the stacks of a run belong together.

What lies on the stacks of a store is there for activations: a sink for each that owns one, a
comparison or arguments for each that drops them at its end, a match for each that waits for its
replacement, a repeater and a base for each that takes turns. So the heights of the stacks can be
read off the stack of activations.

Owns: what activations hold, the invariant of a run, what it says of the single stacks.
Does not own: that steps keep it (`SeededText.Machine.Invariance`).
-/

namespace SeededText.Machine

/-! ### What activations hold -/

namespace Task

def takesTurn : Task → Bool
  | .takeTurn => true
  | _ => false

/-- Whether the code that makes the text for a match is under way. -/
def isReplacing : Task → Bool
  | .replaceMatches _ => true
  | _ => false

/-- Whether the task takes the result on top when it is taken up. -/
def takesResult : Task → Bool
  | .takeTurn => false
  | .callTag call => call.plan.isAwaiting
  | .callSubroutine call => call.plan.isAwaiting
  | _ => true

end Task

namespace Activation

def takesTurns (activation : Activation) : Bool :=
  activation.tasks.any Task.takesTurn

def isReplacing (activation : Activation) : Bool :=
  activation.tasks.any Task.isReplacing

def awaitsResult (activation : Activation) : Bool :=
  activation.tasks.any Task.takesResult

/-- Whether its output becomes a result for a task of the activation beneath. -/
def givesResult (activation : Activation) : Bool :=
  activation.ownsSink && activation.completion?.isNone

def drops (completion : Completion) (activation : Activation) : Bool :=
  activation.completion? = some completion

end Activation

namespace Entry

/-- Whether the output of code that is entered becomes a result for a task. -/
def givesResult (entry : Entry) : Bool :=
  entry.ownsSink && entry.completion?.isNone

def drops (completion : Completion) (entry : Entry) : Bool :=
  entry.completion? = some completion

end Entry

namespace Activation

variable (entry : Entry) (sink : Nat)

@[simp] theorem drops_enter (completion : Completion) :
    (enter entry sink).drops completion = entry.drops completion := rfl

@[simp] theorem givesResult_enter : (enter entry sink).givesResult = entry.givesResult := rfl

@[simp] theorem tasks_enter : (enter entry sink).tasks = [] := rfl

@[simp] theorem awaitsResult_enter : (enter entry sink).awaitsResult = false := rfl

@[simp] theorem ownsSink_enter : (enter entry sink).ownsSink = entry.ownsSink := rfl

end Activation

/-- Whether a completion fits code with or without a sink of its own: a trial has one, code that
drops something at its end has none. -/
def Completion.Fits (ownsSink : Bool) : Option Completion → Prop
  | none => True
  | some (.settleTrial _ _) => ownsSink = true
  | some _ => ownsSink = false

/-! ### Shapes -/

/-- Heights of the stacks of a store, results aside, and the bases. -/
structure Shape where
  sinks : Nat
  comparisons : Nat
  bindings : Nat
  matchStack : Nat
  repeaters : Nat
  bases : List Base
deriving DecidableEq, Repr

def Store.shape (store : Store) : Shape where
  sinks := store.sinks.size
  comparisons := store.comparisons.length
  bindings := store.bindings.length
  matchStack := store.matchStack.length
  repeaters := store.repeaters.length
  bases := store.bases

/-- The shape with what an activation holds on top from its entering to its end. -/
def Shape.keep (shape : Shape) (activation : Activation) : Shape :=
  { shape with
    sinks := shape.sinks + activation.ownsSink.toNat
    comparisons := shape.comparisons + (activation.drops .dropComparison).toNat
    bindings := shape.bindings + (activation.drops .dropBindings).toNat }

/-- The heights that a block keeps which is entered here; there is no result then. -/
def Shape.heights (shape : Shape) : Heights where
  comparisons := shape.comparisons
  bindings := shape.bindings
  matchStack := shape.matchStack
  results := 0

/-- The shape with what the tasks of an activation at the index `depth` hold on top. -/
def Shape.queue (shape : Shape) (depth : Nat) (tasks : List Task) : Shape :=
  let matched :=
    { shape with matchStack := shape.matchStack + (tasks.any Task.isReplacing).toNat }
  { matched with
    repeaters := shape.repeaters + (tasks.any Task.takesTurn).toNat
    bases :=
      if tasks.any Task.takesTurn then ⟨depth, matched.heights⟩ :: shape.bases else shape.bases }

/-- What the activations of a stack hold together. Beneath all is the sink of the run. -/
def shapeOf : List Activation → Shape
  | [] => ⟨1, 0, 0, 0, 0, []⟩
  | top :: beneath => ((shapeOf beneath).keep top).queue beneath.length top.tasks

/-! ### The invariant -/

/-- Each activation writes to the sink of the highest owner that is not above it. -/
def Indexed : List Activation → Prop
  | [] => True
  | top :: beneath => top.sink + 1 = (shapeOf (top :: beneath)).sinks ∧ Indexed beneath

/-- An activation awaits a result just if the one above it gives one. -/
def Linked : List Activation → Prop
  | [] => True
  | [bottom] => bottom.ownsSink = false ∧ bottom.completion? = none
  | above :: below :: beneath =>
      below.awaitsResult = above.givesResult ∧
        Completion.Fits above.ownsSink above.completion? ∧ Linked (below :: beneath)

/-- What holds of the stack of activations whatever the store is. -/
structure Ordered (stack : List Activation) : Prop where
  indexed : Indexed stack
  linked : Linked stack
  tasks : ∀ activation ∈ stack, activation.tasks.length ≤ 1

/-- How many results wait for the activation on top. -/
def awaited : List Activation → Nat
  | [] => 0
  | top :: _ => top.awaitsResult.toNat

/-- How high the stack of a run gets at most; the pattern itself is always entered. -/
def heightLimit (engine : Engine) : Nat :=
  max 1 engine.settings.maxStackDepth

/-- The invariant of a run: the stacks of the store hold just what the activations need. -/
structure WellStacked (engine : Engine) (configuration : Configuration) : Prop where
  ordered : Ordered configuration.stack
  shape : configuration.store.shape = shapeOf configuration.stack
  results : configuration.store.results.length = awaited configuration.stack
  height : configuration.stack.length ≤ heightLimit engine

/-! ### Reading the invariant -/

theorem countP_cons_eq_toNat_add {α : Type} (test : α → Bool) (first : α) (rest : List α) :
    (first :: rest).countP test = (test first).toNat + rest.countP test := by
  rw [List.countP_cons, Nat.add_comm]
  cases test first <;> rfl

section Reading

variable {store : Store} {top renewed : Activation} {stack above beneath : List Activation}

theorem shapeOf_cons (top : Activation) (beneath : List Activation) :
    shapeOf (top :: beneath) = ((shapeOf beneath).keep top).queue beneath.length top.tasks := rfl

@[simp] theorem Shape.queue_nil (shape : Shape) (depth : Nat) : shape.queue depth [] = shape := rfl

theorem shapeOf_sinks (stack : List Activation) :
    (shapeOf stack).sinks = stack.countP Activation.ownsSink + 1 := by
  induction stack with
  | nil => rfl
  | cons top beneath inductionHypothesis =>
      simp only [shapeOf_cons, Shape.keep, Shape.queue, inductionHypothesis,
        countP_cons_eq_toNat_add]
      omega

/-- A stack without its top links as before. -/
theorem Linked.tail (linked : Linked (top :: beneath)) : Linked beneath := by
  cases beneath with
  | nil => trivial
  | cons below beneath => exact linked.2.2

/-- What links the activation on top to the one beneath does not hang on its tasks. -/
theorem Linked.congr_top (linked : Linked (top :: beneath))
    (owns : renewed.ownsSink = top.ownsSink) (completion : renewed.completion? = top.completion?) :
    Linked (renewed :: beneath) := by
  cases beneath with
  | nil => exact ⟨owns.trans linked.1, completion.trans linked.2⟩
  | cons below beneath =>
      refine ⟨?_, ?_, linked.2.2⟩
      · rw [Activation.givesResult, owns, completion]
        exact linked.1
      · rw [owns, completion]
        exact linked.2.1

namespace Ordered

theorem tail (ordered : Ordered (top :: beneath)) : Ordered beneath where
  indexed := ordered.indexed.2
  linked := ordered.linked.tail
  tasks activation member := ordered.tasks activation (List.mem_cons_of_mem top member)

theorem of_append (ordered : Ordered (above ++ beneath)) : Ordered beneath := by
  induction above with
  | nil => exact ordered
  | cons top above inductionHypothesis => exact inductionHypothesis ordered.tail

/-- The activation on top may read on, and leave at most one task. -/
theorem renew (ordered : Ordered (top :: beneath)) (cursor : Nat) {tasks : List Task}
    (elseArmed : Bool) (short : tasks.length ≤ 1) :
    Ordered ({ top with cursor := cursor, tasks := tasks, elseArmed := elseArmed } :: beneath) where
  indexed := ordered.indexed
  linked := ordered.linked.congr_top rfl rfl
  tasks := by
    intro activation member
    rcases List.mem_cons.mp member with same | inside
    · exact same ▸ short
    · exact ordered.tail.tasks activation inside

end Ordered

end Reading

end SeededText.Machine
