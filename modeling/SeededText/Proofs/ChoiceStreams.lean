import SeededText.Proofs.Dealing

/-!
Contract: a synchronizer reads its choices from one stream.

Asked for nothing but choices below a length, a synchronizer of some kind and seed gives a stream.
Whatever else it is asked for in between, it gives what stands in this stream: it has a place
there and a current choice, which a pinned request repeats and a step replaces.

Owns: the stream of a kind and a seed, the reader of a stream.
Does not own: in which order the stream of a deck deals (`SeededText.Proofs.Decks`).
-/

namespace SeededText.Choice

open SeededText.Random

namespace Synchronizer

variable {first second synchronizer : Synchronizer} {length : Nat}

/-! ### Streams -/

/-- The synchronizer behind `count` requests for a choice. -/
def nextBy (synchronizer : Synchronizer) (length : Nat) : Nat → Synchronizer
  | 0 => synchronizer
  | count + 1 => ((synchronizer.nextBy length count).next length).2

/-- What stands at a place in the stream of choices of a fresh synchronizer that is asked for
nothing else. -/
def choiceAt (kind : SynchronizerKind) (length : Nat) (seed : UInt64) (place : Nat) : Nat :=
  (((fresh kind seed).nextBy length place).next length).1

/-! ### What choices depend on -/

/-- Two synchronizers that have the same to choose from. -/
structure Alike (first second : Synchronizer) : Prop where
  kind : first.kind = second.kind
  generator : first.generator = second.generator
  counter : first.counter = second.counter
  deck : first.deck = second.deck
  locked : first.locked? = second.locked?

theorem Alike.refl (synchronizer : Synchronizer) : Alike synchronizer synchronizer :=
  ⟨rfl, rfl, rfl, rfl, rfl⟩

theorem Alike.trans {third : Synchronizer} (alike : Alike first second)
    (further : Alike second third) : Alike first third where
  kind := alike.kind.trans further.kind
  generator := alike.generator.trans further.generator
  counter := alike.counter.trans further.counter
  deck := alike.deck.trans further.deck
  locked := alike.locked.trans further.locked

/-- The kinds that shuffle deal from their deck, place by place. -/
theorem advance_of_shuffles
    (shuffles : synchronizer.kind = .deck ∨ synchronizer.kind = .cyclicDeck) :
    synchronizer.advance length =
      ((synchronizer.withDeck length).deck.getD
          ((synchronizer.withDeck length).counter % length) 0,
        { synchronizer.withDeck length with
          counter := (synchronizer.withDeck length).counter + 1 }) := by
  rcases shuffles with kind | kind <;> simp only [advance, kind] <;> rfl

theorem Alike.withDeck (alike : Alike first second) (length : Nat) :
    Alike (first.withDeck length) (second.withDeck length) := by
  have same : first.needsDeck length = second.needsDeck length := by
    simp only [needsDeck, alike.kind, alike.deck, alike.counter]
  unfold Synchronizer.withDeck
  rw [same]
  split
  · constructor
    · exact alike.kind
    · simp only [shuffleDeck, alike.generator]
    · rfl
    · simp only [shuffleDeck, alike.generator]
    · exact alike.locked
  · exact alike

/-- From the same, the same is chosen, and leaves the same to choose from. -/
theorem Alike.advance (alike : Alike first second) (length : Nat) :
    (first.advance length).1 = (second.advance length).1 ∧
      Alike (first.advance length).2 (second.advance length).2 := by
  by_cases shuffles : second.kind = .deck ∨ second.kind = .cyclicDeck
  · have dealt := alike.withDeck length
    rw [advance_of_shuffles shuffles, advance_of_shuffles (alike.kind ▸ shuffles)]
    refine ⟨?_, dealt.kind, dealt.generator, ?_, dealt.deck, dealt.locked⟩
    · rw [dealt.deck, dealt.counter]
    · rw [dealt.counter]
  · obtain ⟨kind, _, _, _, _, _, _, _, _, _⟩ := first
    obtain ⟨_, _, _, _, _, _, _, _, _, _⟩ := second
    obtain ⟨rfl, rfl, rfl, rfl, rfl⟩ := alike
    cases kind with
    | locked | ordered | reverse => exact ⟨rfl, rfl, rfl, rfl, rfl, rfl⟩
    | deck | cyclicDeck => simp at shuffles

theorem Alike.advanceBy (alike : Alike first second) (length count : Nat) :
    Alike (advanceBy length count first) (advanceBy length count second) := by
  induction count generalizing first second with
  | zero => exact alike
  | succ count inductionHypothesis => exact inductionHypothesis (alike.advance length).2

theorem advanceBy_add (length first second : Nat) (synchronizer : Synchronizer) :
    advanceBy length (first + second) synchronizer =
      advanceBy length second (advanceBy length first synchronizer) := by
  induction first generalizing synchronizer with
  | zero => rw [Nat.zero_add]; rfl
  | succ first inductionHypothesis =>
      rw [Nat.succ_add]
      exact inductionHypothesis _

theorem advanceBy_succ (length count : Nat) (synchronizer : Synchronizer) :
    advanceBy length (count + 1) synchronizer =
      ((advanceBy length count synchronizer).advance length).2 :=
  advanceBy_add length count 1 synchronizer

/-- Two synchronizers that have been asked for the same, so far as it does not change what there is
to choose from. -/
structure AskedAlike (first second : Synchronizer) : Prop where
  kind : first.kind = second.kind
  seed : first.seed = second.seed
  pinned : first.pinned = second.pinned
  pendingSteps : first.pendingSteps = second.pendingSteps
  lastLength : first.lastLength? = second.lastLength?

theorem AskedAlike.trans {third : Synchronizer} (alike : AskedAlike first second)
    (further : AskedAlike second third) : AskedAlike first third where
  kind := alike.kind.trans further.kind
  seed := alike.seed.trans further.seed
  pinned := alike.pinned.trans further.pinned
  pendingSteps := alike.pendingSteps.trans further.pendingSteps
  lastLength := alike.lastLength.trans further.lastLength

theorem askedAlike_advance (synchronizer : Synchronizer) (length : Nat) :
    AskedAlike (synchronizer.advance length).2 synchronizer := by
  unfold advance shuffleDeck
  split
  · exact ⟨rfl, rfl, rfl, rfl, rfl⟩
  · exact ⟨rfl, rfl, rfl, rfl, rfl⟩
  · exact ⟨rfl, rfl, rfl, rfl, rfl⟩
  all_goals
    dsimp only
    split <;> exact ⟨rfl, rfl, rfl, rfl, rfl⟩

theorem askedAlike_advanceBy (length count : Nat) (synchronizer : Synchronizer) :
    AskedAlike (advanceBy length count synchronizer) synchronizer := by
  induction count generalizing synchronizer with
  | zero => exact ⟨rfl, rfl, rfl, rfl, rfl⟩
  | succ count inductionHypothesis =>
      exact (inductionHypothesis _).trans (synchronizer.askedAlike_advance length)

/-! ### The next choice -/

/-- Behind the steps that waited for a length. -/
def stepped (synchronizer : Synchronizer) (length : Nat) : Synchronizer :=
  advanceBy length synchronizer.pendingSteps { synchronizer with pendingSteps := 0 }

/-- The choice that a pinned synchronizer repeats. -/
def repeated? (synchronizer : Synchronizer) (length : Nat) : Option Nat :=
  if synchronizer.pinned then synchronizer.last?.filter (· < length) else none

theorem lt_of_repeated {last : Nat} (repeats : synchronizer.repeated? length = some last) :
    last < length := by
  unfold repeated? at repeats
  split at repeats
  · exact of_decide_eq_true (Option.filter_eq_some_iff.mp repeats).2
  · cases repeats

theorem next_of_repeated {last : Nat} (repeats : synchronizer.repeated? length = some last) :
    synchronizer.next length = (last, synchronizer) := by
  have positive := Nat.zero_lt_of_lt (lt_of_repeated repeats)
  unfold repeated? at repeats
  simp only [next, repeats, if_neg (Nat.ne_of_gt positive)]

theorem next_of_new (positive : 0 < length) (new : synchronizer.repeated? length = none) :
    synchronizer.next length = (((synchronizer.stepped length).advance length).1,
      { ((synchronizer.stepped length).advance length).2 with
        last? := some ((synchronizer.stepped length).advance length).1
        lastLength? := some length }) := by
  unfold repeated? at new
  simp only [next, new, if_neg (Nat.ne_of_gt positive)]
  rfl

theorem next_of_free (positive : 0 < length)
    (free : synchronizer.pinned = false ∨ synchronizer.last? = none) :
    synchronizer.next length = (((synchronizer.stepped length).advance length).1,
      { ((synchronizer.stepped length).advance length).2 with
        last? := some ((synchronizer.stepped length).advance length).1
        lastLength? := some length }) := by
  refine next_of_new positive ?_
  unfold repeated?
  rcases free with unpinned | none
  · rw [unpinned]
    rfl
  · rw [none]
    exact ite_self _

theorem next_of_pinned {current : Nat} (pinned : synchronizer.pinned = true)
    (last : synchronizer.last? = some current) (below : current < length) :
    synchronizer.next length = (current, synchronizer) := by
  refine next_of_repeated ?_
  rw [repeated?, pinned, last, if_pos rfl]
  exact Option.filter_some_pos (decide_eq_true below)

theorem alike_stepped (synchronizer : Synchronizer) (length : Nat) :
    Alike (synchronizer.stepped length)
      (advanceBy length synchronizer.pendingSteps synchronizer) := by
  have same : Alike { synchronizer with pendingSteps := 0 } synchronizer :=
    ⟨rfl, rfl, rfl, rfl, rfl⟩
  exact same.advanceBy length _

theorem askedAlike_stepped (synchronizer : Synchronizer) (length : Nat) :
    AskedAlike (synchronizer.stepped length) { synchronizer with pendingSteps := 0 } :=
  askedAlike_advanceBy length _ _

end Synchronizer

/-! ### Readers -/

/-- What can be asked of a synchronizer whose choices are all below one length. -/
inductive Use where
  | next
  | step
  | pin
  | unpin
  | reset
  | reseed (seed : UInt64)

/-- What the synchronizer answers, and what becomes of it. -/
def Use.perform (length : Nat) (synchronizer : Synchronizer) : Use → Option Nat × Synchronizer
  | .next => (some (synchronizer.next length).1, (synchronizer.next length).2)
  | .step => (none, synchronizer.step)
  | .pin => (none, synchronizer.pin)
  | .unpin => (none, synchronizer.unpin)
  | .reset => (none, synchronizer.reset)
  | .reseed seed => (none, synchronizer.reseed seed)

/-- A reader of the streams that the seeds have. -/
structure Reader where
  seed : UInt64
  /-- Where in the stream of the seed it reads next. -/
  place : Nat
  current? : Option Nat
  pinned : Bool

namespace Reader

def start (seed : UInt64) : Reader :=
  ⟨seed, 0, none, false⟩

/-- The reader behind the choice at its place, with another current choice. -/
def goOn (reader : Reader) (current? : Option Nat) : Reader :=
  { reader with place := reader.place + 1, current? := current? }

/-- What the reader answers, and what becomes of it. -/
def perform (streams : UInt64 → Nat → Nat) (reader : Reader) : Use → Option Nat × Reader
  | .next =>
      let choice := streams reader.seed reader.place
      match reader.pinned, reader.current? with
      | true, some current => (some current, reader)
      | _, _ => (some choice, reader.goOn (some choice))
  | .step =>
      let skipped := streams reader.seed reader.place
      (none, reader.goOn (reader.current?.map fun _ => skipped))
  | .pin => (none, { reader with pinned := true })
  | .unpin => (none, { reader with pinned := false })
  | .reset => (none, start reader.seed)
  | .reseed seed => (none, start seed)

end Reader

/-- The answers to uses, one after the other. -/
def answers {σ : Type} (perform : σ → Use → Option Nat × σ) : σ → List Use → List (Option Nat)
  | _, [] => []
  | state, use :: uses => (perform state use).1 :: answers perform (perform state use).2 uses

/-! ### Synchronizers as readers -/

section Tracking

variable {kind : SynchronizerKind} {length : Nat} {reader : Reader} {synchronizer : Synchronizer}

/-- The synchronizer behind `place` choices of a fresh one. -/
def advanced (kind : SynchronizerKind) (length : Nat) (seed : UInt64) (place : Nat) :
    Synchronizer :=
  Synchronizer.advanceBy length place (.fresh kind seed)

/-- The next choice there. -/
def streamOf (kind : SynchronizerKind) (length : Nat) (seed : UInt64) (place : Nat) : Nat :=
  ((advanced kind length seed place).advance length).1

theorem streamOf_lt (kind : SynchronizerKind) (positive : 0 < length) (seed : UInt64)
    (place : Nat) : streamOf kind length seed place < length := by
  have dealt := (Synchronizer.dealt_fresh kind seed).advanceBy length place
  exact (dealt.advance length).2 positive

/-- A synchronizer that is where a reader is. Before the first choice its steps are still to be
made; they are those that the reader has made. -/
structure Tracks (kind : SynchronizerKind) (length : Nat) (reader : Reader)
    (synchronizer : Synchronizer) : Prop where
  sameKind : synchronizer.kind = kind
  seed : synchronizer.seed = reader.seed
  pinned : synchronizer.pinned = reader.pinned
  last : synchronizer.last? = reader.current?
  lastLength : synchronizer.lastLength? = reader.current?.map fun _ => length
  below : ∀ current ∈ reader.current?, current < length
  noneLeft : reader.current? ≠ none → synchronizer.pendingSteps = 0
  alike : (Synchronizer.advanceBy length synchronizer.pendingSteps synchronizer).Alike
    (advanced kind length reader.seed reader.place)

namespace Tracks

theorem start (kind : SynchronizerKind) (length : Nat) (seed : UInt64) :
    Tracks kind length (.start seed) (.fresh kind seed) where
  sameKind := rfl
  seed := rfl
  pinned := rfl
  last := rfl
  lastLength := rfl
  below current member := by cases member
  noneLeft some := absurd rfl some
  alike := .refl _

/-- A new choice is the one at the place of the reader. -/
theorem read (tracks : Tracks kind length reader synchronizer) (positive : 0 < length)
    (free : reader.pinned = false ∨ reader.current? = none) :
    (synchronizer.next length).1 = streamOf kind length reader.seed reader.place ∧
      Tracks kind length
        (reader.goOn (some (streamOf kind length reader.seed reader.place)))
        (synchronizer.next length).2 := by
  rw [← tracks.pinned, ← tracks.last] at free
  rw [Synchronizer.next_of_free positive free]
  have alike := (synchronizer.alike_stepped length).trans tracks.alike
  obtain ⟨sameChoice, further⟩ := alike.advance length
  have asked := (Synchronizer.askedAlike_advance (synchronizer.stepped length) length).trans
    (synchronizer.askedAlike_stepped length)
  refine ⟨sameChoice, ?_⟩
  constructor
  · exact asked.kind.trans tracks.sameKind
  · exact asked.seed.trans tracks.seed
  · exact asked.pinned.trans tracks.pinned
  · exact congrArg some sameChoice
  · rfl
  · intro current member
    obtain rfl := Option.some.inj member
    exact streamOf_lt kind positive _ _
  · intro _
    exact asked.pendingSteps
  · dsimp only
    rw [asked.pendingSteps]
    show Synchronizer.Alike _ (advanced kind length reader.seed (reader.place + 1))
    rw [advanced, Synchronizer.advanceBy_succ]
    exact ⟨further.kind, further.generator, further.counter, further.deck, further.locked⟩

theorem next (tracks : Tracks kind length reader synchronizer) (positive : 0 < length) :
    some (synchronizer.next length).1 = (reader.perform (streamOf kind length) .next).1 ∧
      Tracks kind length (reader.perform (streamOf kind length) .next).2
        (synchronizer.next length).2 := by
  unfold Reader.perform
  dsimp only
  split
  · next current pinned found =>
      have below : current < length := tracks.below current (by simpa using found)
      rw [Synchronizer.next_of_pinned (tracks.pinned.trans pinned) (tracks.last.trans found) below]
      exact ⟨rfl, tracks⟩
  · next notBoth =>
      have free : reader.pinned = false ∨ reader.current? = none := by
        cases pinned : reader.pinned with
        | false => exact .inl rfl
        | true =>
            cases found : reader.current? with
            | none => exact .inr rfl
            | some current => exact absurd found (notBoth current pinned)
      have read := tracks.read positive free
      exact ⟨congrArg some read.1, read.2⟩

/-- Before the first choice a step waits, as one more that is still to be made. -/
theorem step_of_none (tracks : Tracks kind length reader synchronizer)
    (nothing : reader.current? = none) :
    Tracks kind length (reader.goOn none) synchronizer.step := by
  have lastLength : synchronizer.lastLength? = none := by
    rw [tracks.lastLength, nothing]
    rfl
  have step : synchronizer.step =
      { synchronizer with pendingSteps := synchronizer.pendingSteps + 1 } := by
    rw [Synchronizer.step, lastLength]
  rw [step]
  constructor
  · exact tracks.sameKind
  · exact tracks.seed
  · exact tracks.pinned
  · exact tracks.last.trans nothing
  · exact lastLength
  · intro current member
    cases member
  · intro some
    exact absurd rfl some
  · have same : Synchronizer.Alike
        { synchronizer with pendingSteps := synchronizer.pendingSteps + 1 } synchronizer :=
      ⟨rfl, rfl, rfl, rfl, rfl⟩
    have waited := (same.advanceBy length synchronizer.pendingSteps).trans tracks.alike
    show (Synchronizer.advanceBy length (synchronizer.pendingSteps + 1) _).Alike
      (advanced kind length reader.seed (reader.place + 1))
    rw [advanced, Synchronizer.advanceBy_succ, Synchronizer.advanceBy_succ]
    exact (waited.advance length).2

/-- Behind a choice a step is made at once, and what it skips is the current choice. -/
theorem step_of_some (tracks : Tracks kind length reader synchronizer) (positive : 0 < length)
    {current : Nat} (found : reader.current? = some current) :
    Tracks kind length
      (reader.goOn (some (streamOf kind length reader.seed reader.place))) synchronizer.step := by
  have lastLength : synchronizer.lastLength? = some length := by
    rw [tracks.lastLength, found]
    rfl
  have noneLeft := tracks.noneLeft (by simp [found])
  have alike := tracks.alike
  rw [noneLeft] at alike
  obtain ⟨sameChoice, further⟩ := alike.advance length
  have asked := synchronizer.askedAlike_advance length
  simp only [Synchronizer.step, lastLength]
  constructor
  · exact asked.kind.trans tracks.sameKind
  · exact asked.seed.trans tracks.seed
  · exact asked.pinned.trans tracks.pinned
  · exact congrArg some sameChoice
  · exact asked.lastLength.trans lastLength
  · intro current member
    obtain rfl := Option.some.inj member
    exact streamOf_lt kind positive _ _
  · intro _
    exact asked.pendingSteps.trans noneLeft
  · show (Synchronizer.advanceBy length (synchronizer.advance length).2.pendingSteps _).Alike
      (advanced kind length reader.seed (reader.place + 1))
    rw [asked.pendingSteps, noneLeft, advanced, Synchronizer.advanceBy_succ]
    exact ⟨further.kind, further.generator, further.counter, further.deck, further.locked⟩

theorem step (tracks : Tracks kind length reader synchronizer) (positive : 0 < length) :
    Tracks kind length (reader.perform (streamOf kind length) .step).2 synchronizer.step := by
  unfold Reader.perform
  dsimp only
  cases found : reader.current? with
  | none => exact tracks.step_of_none found
  | some current => exact tracks.step_of_some positive found

/-- Pinning changes neither the place nor the current choice. -/
theorem setPinned (tracks : Tracks kind length reader synchronizer) (pinned : Bool) :
    Tracks kind length { reader with pinned := pinned } { synchronizer with pinned := pinned }
    where
  sameKind := tracks.sameKind
  seed := tracks.seed
  pinned := rfl
  last := tracks.last
  lastLength := tracks.lastLength
  below := tracks.below
  noneLeft := tracks.noneLeft
  alike := by
    have same : Synchronizer.Alike { synchronizer with pinned := pinned } synchronizer :=
      ⟨rfl, rfl, rfl, rfl, rfl⟩
    exact (same.advanceBy length synchronizer.pendingSteps).trans tracks.alike

/-- A use has the same answer on both sides, and leaves the synchronizer where the reader is. -/
theorem perform (tracks : Tracks kind length reader synchronizer) (positive : 0 < length)
    (use : Use) :
    (use.perform length synchronizer).1 = (reader.perform (streamOf kind length) use).1 ∧
      Tracks kind length (reader.perform (streamOf kind length) use).2
        (use.perform length synchronizer).2 := by
  cases use with
  | next => exact tracks.next positive
  | step => exact ⟨rfl, tracks.step positive⟩
  | pin => exact ⟨rfl, tracks.setPinned true⟩
  | unpin => exact ⟨rfl, tracks.setPinned false⟩
  | reset =>
      refine ⟨rfl, ?_⟩
      show Tracks kind length (.start reader.seed) (.fresh synchronizer.kind synchronizer.seed)
      rw [tracks.sameKind, tracks.seed]
      exact .start kind length reader.seed
  | reseed seed =>
      refine ⟨rfl, ?_⟩
      show Tracks kind length (.start seed) (.fresh synchronizer.kind seed)
      rw [tracks.sameKind]
      exact .start kind length seed

theorem answers_eq (tracks : Tracks kind length reader synchronizer) (positive : 0 < length)
    (uses : List Use) :
    answers (Use.perform length) synchronizer uses =
      answers (Reader.perform (streamOf kind length)) reader uses := by
  induction uses generalizing reader synchronizer with
  | nil => rfl
  | cons use uses inductionHypothesis =>
      obtain ⟨sameAnswer, further⟩ := tracks.perform positive use
      rw [answers, answers, sameAnswer, inductionHypothesis further]

/-- Asked for choices only, a reader goes through the stream place by place. -/
theorem nextBy (kind : SynchronizerKind) (seed : UInt64) (positive : 0 < length) (count : Nat) :
    ∃ current?, Tracks kind length ⟨seed, count, current?, false⟩
      ((Synchronizer.fresh kind seed).nextBy length count) := by
  induction count with
  | zero => exact ⟨none, .start kind length seed⟩
  | succ count inductionHypothesis =>
      obtain ⟨current?, tracks⟩ := inductionHypothesis
      exact ⟨_, (tracks.read positive (.inl rfl)).2⟩

end Tracks

theorem choiceAt_eq (kind : SynchronizerKind) (seed : UInt64) (positive : 0 < length)
    (place : Nat) :
    Synchronizer.choiceAt kind length seed place = streamOf kind length seed place := by
  obtain ⟨current?, tracks⟩ := Tracks.nextBy kind seed positive place
  exact (tracks.read positive (.inl rfl)).1

end Tracking

/-- Whatever a synchronizer is asked for, it answers as a reader of its streams. -/
theorem answers_eq_of_reader (kind : SynchronizerKind) (seed : UInt64) {length : Nat}
    (positive : 0 < length) (uses : List Use) :
    answers (Use.perform length) (.fresh kind seed) uses =
      answers (Reader.perform (Synchronizer.choiceAt kind length)) (.start seed) uses := by
  have streams : Synchronizer.choiceAt kind length = streamOf kind length := by
    funext seed place
    exact choiceAt_eq kind seed positive place
  rw [streams]
  exact (Tracks.start kind length seed).answers_eq positive uses

/-! ### A deck that is pinned before its first choice

It is stepped before and behind the first choice, then given another seed. -/

namespace PinnedDeck

def uses : List Use :=
  [.step, .pin, .next, .next, .step, .next, .unpin, .next, .reseed 5, .next, .step, .reset, .next]

theorem answers_uses : 0 < 3 ∧
    answers (Use.perform 3) (.fresh .deck 7) uses =
      answers (Reader.perform (Synchronizer.choiceAt .deck 3)) (.start 7) uses :=
  ⟨by decide, answers_eq_of_reader .deck 7 (by decide) uses⟩

example : answers (Use.perform 3) (.fresh .ordered 7) uses =
    [none, none, some 1, some 1, none, some 2, none, some 0, none, some 0, none, none, some 0] := by
  decide

end PinnedDeck

end SeededText.Choice
