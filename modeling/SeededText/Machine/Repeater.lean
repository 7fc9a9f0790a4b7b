import SeededText.Pattern.Scope

/-!
Contract: the turns of a block.

Owns: repetitions, the attributes that tags set for the next block, the progress of a block.
Does not own: which item a turn takes (`SeededText.Machine.Task`).
-/

namespace SeededText.Machine

open Pattern

inductive Repetition where
  /-- One turn for each item. -/
  | each
  | times (count : Nat)
deriving DecidableEq, Repr

/-- What tags have set for the next block. -/
structure BlockAttributes where
  repetition : Repetition
  separator? : Option Code
  before? : Option Code
  after? : Option Code
  /-- Per cent. -/
  chance? : Option Nat
deriving DecidableEq, Repr

/-- The attributes of a block for which no tag set any. -/
def BlockAttributes.standard : BlockAttributes :=
  ⟨.times 1, none, none, none, none⟩

instance : Inhabited BlockAttributes := ⟨.standard⟩

structure Repeater where
  pattern : Pattern
  items : Array Span
  /-- Whether turns take the items in order. -/
  isEach : Bool
  count : Nat
  index : Nat
  isStarted : Bool
  isFinished : Bool
  separator? : Option Code
  before? : Option Code
  after? : Option Code
deriving DecidableEq, Repr

namespace Repeater

/-- The repeater of a block before its first turn. -/
def ofBlock (pattern : Pattern) (items : Array Span) (attributes : BlockAttributes) : Repeater where
  pattern := pattern
  items := items
  isEach := attributes.repetition = .each
  count :=
    match attributes.repetition with
    | .each => items.size
    | .times count => count
  index := 0
  isStarted := false
  isFinished := false
  separator? := attributes.separator?
  before? := attributes.before?
  after? := attributes.after?

/-- The index of the turn that comes next. -/
def nextIndex (repeater : Repeater) : Nat :=
  if repeater.isStarted then repeater.index + 1 else 0

/-- Goes to the next turn, if there is one, or else is finished. -/
def advance (repeater : Repeater) : Bool × Repeater :=
  if repeater.isFinished then (false, repeater)
  else if repeater.nextIndex < repeater.count then
    (true, { repeater with index := repeater.nextIndex, isStarted := true })
  else (false, { repeater with isFinished := true })

/-- Leaves out all turns that are left. -/
def finish (repeater : Repeater) : Repeater :=
  { repeater with isFinished := true }

/-- How many turns are left. -/
def remaining (repeater : Repeater) : Nat :=
  if repeater.isFinished then 0 else repeater.count - repeater.nextIndex

theorem remaining_finish (repeater : Repeater) : repeater.finish.remaining = 0 := rfl

theorem remaining_advance {repeater advanced : Repeater}
    (turn : repeater.advance = (true, advanced)) : advanced.remaining < repeater.remaining := by
  unfold advance at turn
  split at turn
  · simp at turn
  · next unfinished =>
      split at turn
      · next inside =>
          cases turn
          simp only [remaining, nextIndex, unfinished, if_true] at inside ⊢
          simp only [Bool.false_eq_true, if_false]
          omega
      · simp at turn

def item? (repeater : Repeater) (index : Nat) : Option Code :=
  repeater.items[index]?.map fun span => ⟨repeater.pattern, span⟩

def isFirst (repeater : Repeater) : Bool :=
  repeater.index == 0

def isLast (repeater : Repeater) : Bool :=
  repeater.index + 1 == repeater.count

def isOdd (repeater : Repeater) : Bool :=
  repeater.index % 2 == 1

def isEven (repeater : Repeater) : Bool :=
  repeater.index % 2 == 0

/-- Whether the turn is `offset` behind a multiple of `interval`; none is, if that is zero. -/
def isNth (repeater : Repeater) (offset interval : Nat) : Bool :=
  0 < interval && repeater.index % interval == offset

end Repeater

end SeededText.Machine
