import SeededText.Machine.Workspace

/-!
Contract: everything a run owns besides its stack of activations.

The memory and the stacks: sinks, results, comparisons, arguments, matches, repeaters and the places
where blocks were entered. Code works on the memory and one of the sinks, and sees the tops of the
other stacks.

Owns: the store of a run, the workspace and the scope that it gives code, results, heights.
Does not own: what code does with its workspace.
-/

namespace SeededText.Machine

open Output

/-- Heights of the stacks of a run when a block was entered. -/
structure Heights where
  comparisons : Nat
  bindings : Nat
  matchStack : Nat
  results : Nat
deriving DecidableEq, Repr

/-- Where a block was entered: the index of its activation, and the heights of the stacks. -/
structure Base where
  depth : Nat
  heights : Heights
deriving DecidableEq, Repr

/-- Stacks are lists with the top first. -/
structure Store extends Memory where
  /-- The first is the sink of the run, the others are those of activations. -/
  sinks : Array Sink
  /-- Sinks of activations that are done, until a task takes them. -/
  results : List Sink
  comparisons : List Comparison
  bindings : List (Table String Argument)
  matchStack : List MatchData
  repeaters : List Repeater
  bases : List Base

namespace Store

/-- The store at the start of a run. -/
def fresh (engine : Engine) (seed : UInt64) : Store where
  toMemory := .fresh engine seed
  sinks := #[.fresh]
  results := []
  comparisons := []
  bindings := []
  matchStack := []
  repeaters := []
  bases := []

instance : Inhabited Store := ⟨fresh default 0⟩

def sinkAt (store : Store) (sink : Nat) : Sink :=
  store.sinks.getD sink default

/-- What code that writes to a sink works on. -/
def workspace (store : Store) (sink : Nat) : Workspace :=
  ⟨store.toMemory, store.sinkAt sink⟩

/-- Takes over what code that writes to a sink has made of its workspace. -/
def absorb (store : Store) (sink : Nat) (workspace : Workspace) : Store :=
  { store with
    toMemory := workspace.toMemory
    sinks := store.sinks.setIfInBounds sink workspace.sink }

section Absorbing

variable (store : Store) (sink : Nat) (workspace : Workspace)

@[simp] theorem absorb_absorb (later : Workspace) :
    (store.absorb sink workspace).absorb sink later = store.absorb sink later := by
  simp [absorb]

/-- Code that has done nothing changes nothing. -/
@[simp] theorem absorb_workspace : store.absorb sink (store.workspace sink) = store := by
  have sinks : store.sinks.setIfInBounds sink (store.sinkAt sink) = store.sinks := by
    apply Array.ext_getElem?
    intro index
    rw [Array.getElem?_setIfInBounds, sinkAt]
    split
    · next same =>
        subst same
        split <;> simp [*]
    · rfl
  simp [absorb, Store.workspace, sinks]

theorem workspace_absorb {store : Store} {sink : Nat} (inside : sink < store.sinks.size)
    (workspace : Workspace) : (store.absorb sink workspace).workspace sink = workspace := by
  simp [absorb, Store.workspace, sinkAt, inside]

theorem sinks_absorb_of_ne {index : Nat} (other : index ≠ sink) :
    (store.absorb sink workspace).sinks[index]? = store.sinks[index]? := by
  simp [absorb, Ne.symm other]

end Absorbing

/-- The tops of the stacks. -/
def scope (store : Store) : Scope where
  comparison? := store.comparisons.head?
  bindings? := store.bindings.head?
  found? := store.matchStack.head?
  repeater? := store.repeaters.head?

/-- The result on top, an empty sink if there is none. -/
def topResult (store : Store) : Sink :=
  store.results.headD default

/-- Text of the result on top. -/
def resultText (store : Store) : String :=
  store.topResult.mainText store.targets

def dropResult (store : Store) : Store :=
  { store with results := store.results.tail }

def heights (store : Store) : Heights where
  comparisons := store.comparisons.length
  bindings := store.bindings.length
  matchStack := store.matchStack.length
  results := store.results.length

/-- The bottom `height` entries of a stack. -/
def lowest {α : Type} (height : Nat) (stack : List α) : List α :=
  stack.drop (stack.length - height)

/-- Cuts the stacks down to the given heights. -/
def cutTo (store : Store) (heights : Heights) : Store :=
  { store with
    comparisons := lowest heights.comparisons store.comparisons
    bindings := lowest heights.bindings store.bindings
    matchStack := lowest heights.matchStack store.matchStack
    results := lowest heights.results store.results }

/-- The output of the run so far. -/
def output (store : Store) : List ChannelOutput :=
  (store.sinkAt 0).output store.targets

end Store

end SeededText.Machine
