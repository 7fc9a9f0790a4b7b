import SeededText.Choice.Synchronizer

/-!
Contract: each choice of a synchronizer is below the length that is asked for.

A shuffle changes the order of items only. So the deck of a synchronizer holds nothing but indices
below its size, and a deck of another size than the one that is asked for is never dealt from.

Owns: shuffles, decks in order, that what is done to one synchronizer keeps its deck so.
Does not own: the synchronizers of a run (`SeededText.Proofs.Choices`).
-/

namespace SeededText

namespace Random

variable {α : Type}

theorem swapIfInBounds_perm (items : Array α) (first second : Nat) :
    (items.swapIfInBounds first second).Perm items := by
  rw [Array.swapIfInBounds_def]
  split
  · split
    · exact Array.swap_perm _ _
    · exact .refl _
  · exact .refl _

theorem shuffleFrom_perm (place : Nat) (items : Array α) (generator : Generator) :
    (shuffleFrom place items generator).1.Perm items := by
  induction place generalizing items generator with
  | zero => exact .refl _
  | succ place inductionHypothesis =>
      exact (inductionHypothesis _ _).trans (swapIfInBounds_perm _ _ _)

/-- Shuffling neither adds nor loses anything. -/
theorem shuffle_perm (items : Array α) (generator : Generator) :
    (shuffle items generator).1.Perm items :=
  shuffleFrom_perm _ items generator

end Random

namespace Choice

open SeededText.Random

/-! ### Synchronizers -/

namespace Synchronizer

variable {synchronizer : Synchronizer}

/-- The deck holds nothing but indices below its size. -/
def Dealt (synchronizer : Synchronizer) : Prop :=
  ∀ index ∈ synchronizer.deck, index < synchronizer.deck.size

theorem dealt_fresh (kind : SynchronizerKind) (seed : UInt64) : (fresh kind seed).Dealt := by
  simp [Dealt, fresh]

theorem size_shuffleDeck (synchronizer : Synchronizer) (length : Nat) :
    (synchronizer.shuffleDeck length).deck.size = length := by
  have size := (shuffle_perm (Array.range length) synchronizer.generator).size_eq
  rwa [Array.size_range] at size

theorem dealt_shuffleDeck (synchronizer : Synchronizer) (length : Nat) :
    (synchronizer.shuffleDeck length).Dealt := by
  intro index member
  rw [size_shuffleDeck]
  exact Array.mem_range.mp
    ((shuffle_perm (Array.range length) synchronizer.generator).mem_iff.mp member)

/-- A deck of another size is not dealt from. -/
theorem size_of_needsDeck {length : Nat}
    (deals : synchronizer.kind = .deck ∨ synchronizer.kind = .cyclicDeck)
    (ready : synchronizer.needsDeck length = false) : synchronizer.deck.size = length := by
  unfold needsDeck at ready
  rcases deals with kind | kind <;> simp [kind] at ready
  · exact ready.1
  · exact ready

/-- What is dealt from a deck of the length that is asked for is below that length. -/
theorem Dealt.getD_lt (dealt : synchronizer.Dealt) {length : Nat}
    (size : synchronizer.deck.size = length) (positive : 0 < length) (place : Nat) :
    synchronizer.deck.getD (place % length) 0 < length := by
  subst size
  have inside : place % synchronizer.deck.size < synchronizer.deck.size := Nat.mod_lt _ positive
  rw [Array.getD_eq_getD_getElem?, Array.getElem?_eq_getElem inside, Option.getD_some]
  exact dealt _ (Array.getElem_mem inside)

/-- With the deck that the next choice is dealt from. -/
def withDeck (synchronizer : Synchronizer) (length : Nat) : Synchronizer :=
  if synchronizer.needsDeck length then synchronizer.shuffleDeck length else synchronizer

theorem size_withDeck (deals : synchronizer.kind = .deck ∨ synchronizer.kind = .cyclicDeck)
    (length : Nat) : (synchronizer.withDeck length).deck.size = length := by
  unfold withDeck
  cases needs : synchronizer.needsDeck length with
  | true => exact synchronizer.size_shuffleDeck length
  | false => exact size_of_needsDeck deals needs

theorem Dealt.withDeck (dealt : synchronizer.Dealt) (length : Nat) :
    (synchronizer.withDeck length).Dealt := by
  unfold Synchronizer.withDeck
  cases synchronizer.needsDeck length with
  | true => exact synchronizer.dealt_shuffleDeck length
  | false => exact dealt

/-- The next choice is below the length, and the deck stays in order. -/
theorem Dealt.advance (dealt : synchronizer.Dealt) (length : Nat) :
    (synchronizer.advance length).2.Dealt ∧
      (0 < length → (synchronizer.advance length).1 < length) := by
  cases kind : synchronizer.kind with
  | locked =>
      simp only [Synchronizer.advance, kind]
      exact ⟨dealt, Nat.mod_lt _⟩
  | ordered =>
      simp only [Synchronizer.advance, kind]
      exact ⟨dealt, Nat.mod_lt _⟩
  | reverse =>
      simp only [Synchronizer.advance, kind]
      exact ⟨dealt, fun positive => by omega⟩
  | deck | cyclicDeck =>
      have inOrder := dealt.withDeck length
      have size := synchronizer.size_withDeck (by simp [kind]) length
      simp only [Synchronizer.advance, kind]
      exact ⟨inOrder, fun positive => inOrder.getD_lt size positive _⟩

theorem Dealt.advanceBy (dealt : synchronizer.Dealt) (length count : Nat) :
    (advanceBy length count synchronizer).Dealt := by
  induction count generalizing synchronizer with
  | zero => exact dealt
  | succ count inductionHypothesis => exact inductionHypothesis (dealt.advance length).1

/-- Each choice is below the length of its request, also of a synchronizer that is pinned. -/
theorem Dealt.next (dealt : synchronizer.Dealt) (length : Nat) :
    (synchronizer.next length).2.Dealt ∧
      (0 < length → (synchronizer.next length).1 < length) := by
  simp only [Synchronizer.next]
  split
  · next none => exact ⟨dealt, fun positive => absurd none (Nat.ne_of_gt positive)⟩
  · split
    · next last repeated =>
        refine ⟨dealt, fun _ => ?_⟩
        split at repeated
        · exact of_decide_eq_true (Option.filter_eq_some_iff.mp repeated).2
        · cases repeated
    · have stepped : Dealt { synchronizer with pendingSteps := 0 } := dealt
      exact (stepped.advanceBy length synchronizer.pendingSteps).advance length

theorem Dealt.step (dealt : synchronizer.Dealt) : synchronizer.step.Dealt := by
  unfold Synchronizer.step
  split
  · exact (dealt.advance _).1
  · exact dealt

end Synchronizer

end Choice

end SeededText
