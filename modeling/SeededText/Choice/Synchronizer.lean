import SeededText.Random.Generator
import SeededText.Text.Unicode.Casing

/-!
Contract: streams of choices that can be pinned, stepped and rewound.

A synchronizer has a seed of its own and yields indices below the length that each request gives.
Its kind says in which order they come.

Owns: the kinds, the stream of each, pinning, stepping, rewinding.
Does not own: synchronizers by name (`SeededText.Choice.Synchronizers`).
-/

namespace SeededText.Choice

open SeededText.Random Text

inductive SynchronizerKind where
  /-- Always the same choice. -/
  | locked
  /-- In order, from the start again after the last. -/
  | ordered
  /-- In reverse order, from the end again after the first. -/
  | reverse
  /-- In random order without repeats, in a new order when all were dealt. -/
  | deck
  /-- In random order without repeats, in the same order again when all were dealt. -/
  | cyclicDeck
deriving DecidableEq, Repr, Inhabited

def SynchronizerKind.ofName? (name : String) : Option SynchronizerKind :=
  match lowerAscii (trim name) with
  | "locked" => some .locked
  | "ordered" => some .ordered
  | "reverse" => some .reverse
  | "deck" => some .deck
  | "cdeck" => some .cyclicDeck
  | _ => none

structure Synchronizer where
  kind : SynchronizerKind
  seed : UInt64
  generator : Generator
  /-- Number of choices made, since the last shuffle for a kind that shuffles. -/
  counter : Nat
  deck : Array Nat
  /-- The random number that a locked synchronizer keeps. -/
  locked? : Option Nat
  last? : Option Nat
  lastLength? : Option Nat
  /-- Steps made before the first request, whose length was not known yet. -/
  pendingSteps : Nat
  pinned : Bool
deriving DecidableEq, Repr

namespace Synchronizer

def fresh (kind : SynchronizerKind) (seed : UInt64) : Synchronizer :=
  { kind, seed
    generator := .ofSeed seed
    counter := 0
    deck := #[]
    locked? := none
    last? := none
    lastLength? := none
    pendingSteps := 0
    pinned := false }

instance : Inhabited Synchronizer := ⟨fresh default 0⟩

/-- Puts a shuffled deck of the indices below `length` in place. -/
def shuffleDeck (synchronizer : Synchronizer) (length : Nat) : Synchronizer :=
  let (deck, generator) := shuffle (Array.range length) synchronizer.generator
  { synchronizer with deck := deck, generator := generator, counter := 0 }

/-- Whether the next choice needs a deck that is not there. -/
def needsDeck (synchronizer : Synchronizer) (length : Nat) : Bool :=
  match synchronizer.kind with
  | .deck => synchronizer.deck.size != length || synchronizer.deck.size ≤ synchronizer.counter
  | .cyclicDeck => synchronizer.deck.size != length
  | _ => false

/-- The next choice below `length`, which is positive. -/
def advance (synchronizer : Synchronizer) (length : Nat) : Nat × Synchronizer :=
  match synchronizer.kind with
  | .locked =>
      let (base, generator) :=
        match synchronizer.locked? with
        | some base => (base, synchronizer.generator)
        | none => synchronizer.generator.nextDoubleWord
      (base % length, { synchronizer with generator := generator, locked? := some base })
  | .ordered =>
      (synchronizer.counter % length, { synchronizer with counter := synchronizer.counter + 1 })
  | .reverse =>
      (length - 1 - synchronizer.counter % length,
        { synchronizer with counter := synchronizer.counter + 1 })
  | .deck | .cyclicDeck =>
      let dealt :=
        if synchronizer.needsDeck length then synchronizer.shuffleDeck length else synchronizer
      (dealt.deck.getD (dealt.counter % length) 0, { dealt with counter := dealt.counter + 1 })

/-- The synchronizer behind `count` choices. -/
def advanceBy (length : Nat) : Nat → Synchronizer → Synchronizer
  | 0, synchronizer => synchronizer
  | count + 1, synchronizer => advanceBy length count (synchronizer.advance length).2

/-- An index below `length`, zero if there is none. A pinned synchronizer repeats its last choice as
long as that is below `length`. -/
def next (synchronizer : Synchronizer) (length : Nat) : Nat × Synchronizer :=
  let repeated? :=
    if synchronizer.pinned then synchronizer.last?.filter (· < length) else none
  if length = 0 then (0, synchronizer)
  else
    match repeated? with
    | some last => (last, synchronizer)
    | none =>
        let stepped :=
          advanceBy length synchronizer.pendingSteps { synchronizer with pendingSteps := 0 }
        let (choice, advanced) := stepped.advance length
        (choice, { advanced with last? := some choice, lastLength? := some length })

/-- Skips a choice; before the first request the skip waits for it. -/
def step (synchronizer : Synchronizer) : Synchronizer :=
  match synchronizer.lastLength? with
  | some length =>
      let (choice, advanced) := synchronizer.advance length
      { advanced with last? := some choice }
  | none => { synchronizer with pendingSteps := synchronizer.pendingSteps + 1 }

def pin (synchronizer : Synchronizer) : Synchronizer :=
  { synchronizer with pinned := true }

def unpin (synchronizer : Synchronizer) : Synchronizer :=
  { synchronizer with pinned := false }

/-- As it was when it was made. -/
def reset (synchronizer : Synchronizer) : Synchronizer :=
  fresh synchronizer.kind synchronizer.seed

def reseed (synchronizer : Synchronizer) (seed : UInt64) : Synchronizer :=
  fresh synchronizer.kind seed

end Synchronizer

end SeededText.Choice
