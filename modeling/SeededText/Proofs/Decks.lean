import SeededText.Proofs.ChoiceStreams

/-!
Contract: a deck deals every index once in each round.

A shuffle puts the indices below the length into some order. A deck is dealt from the front, and
shuffled anew when all of it has been dealt; a cyclic deck is shuffled once, and dealt in the same
order again and again.

Owns: the rounds of a deck.
Does not own: what is chosen between other requests (`SeededText.Proofs.ChoiceStreams`).
-/

namespace SeededText.Choice

open SeededText.Random

namespace Synchronizer

variable {synchronizer : Synchronizer} {length : Nat}

/-- What a shuffled deck has at its places are the indices below the length. -/
theorem perm_shuffleDeck (synchronizer : Synchronizer) (length : Nat) :
    ((List.range length).map fun place =>
        (synchronizer.shuffleDeck length).deck.getD place 0).Perm (List.range length) := by
  have size := synchronizer.size_shuffleDeck length
  have dealt : ((List.range length).map fun place =>
      (synchronizer.shuffleDeck length).deck.getD place 0) =
        (synchronizer.shuffleDeck length).deck.toList := by
    apply List.ext_getElem
    · simpa using size.symm
    · intro place inside within
      simp only [List.getElem_map, List.getElem_range, Array.getElem_toList]
      rw [Array.getD_eq_getD_getElem?, Array.getElem?_eq_getElem (by simpa using within)]
      rfl
  rw [dealt]
  have shuffled := (shuffle_perm (Array.range length) synchronizer.generator).toList
  rwa [Array.toList_range] at shuffled

/-- Some choices behind the shuffle of a deck, with none before it. -/
def dealing (synchronizer : Synchronizer) (length counter : Nat) : Synchronizer :=
  { synchronizer.shuffleDeck length with counter := counter }

/-- As long as a deck is not shuffled again, the choices are what it has at its places. -/
theorem advance_advanceBy (shuffles : synchronizer.kind = .deck ∨ synchronizer.kind = .cyclicDeck)
    (starts : synchronizer.needsDeck length = true) (place : Nat)
    (lasts : ∀ counter, 0 < counter → counter ≤ place →
      (synchronizer.dealing length counter).needsDeck length = false) :
    (advanceBy length place synchronizer).advance length =
      ((synchronizer.shuffleDeck length).deck.getD (place % length) 0,
        synchronizer.dealing length (place + 1)) := by
  induction place with
  | zero =>
      have deck : synchronizer.withDeck length = synchronizer.shuffleDeck length := if_pos starts
      rw [advanceBy, advance_of_shuffles shuffles, deck]
      rfl
  | succ place inductionHypothesis =>
      have before := inductionHypothesis fun counter positive upTo =>
        lasts counter positive (Nat.le_succ_of_le upTo)
      have sameDeck : (synchronizer.dealing length (place + 1)).withDeck length =
          synchronizer.dealing length (place + 1) := by
        rw [withDeck, lasts (place + 1) (Nat.succ_pos place) (Nat.le_refl _)]
        rfl
      have stillShuffles : (synchronizer.dealing length (place + 1)).kind = .deck ∨
          (synchronizer.dealing length (place + 1)).kind = .cyclicDeck := shuffles
      rw [advanceBy_succ, before]
      dsimp only
      rw [advance_of_shuffles stillShuffles, sameDeck]
      rfl

end Synchronizer

/-! ### Decks that are shuffled in each round -/

section Rounds

variable {length : Nat}

/-- Up to the end of a round the deck is not shuffled again. -/
theorem needsDeck_dealing_deck {synchronizer : Synchronizer} (kind : synchronizer.kind = .deck)
    (counter : Nat) :
    (synchronizer.dealing length counter).needsDeck length = decide (length ≤ counter) := by
  have sameKind : (synchronizer.dealing length counter).kind = .deck := kind
  have size : (synchronizer.dealing length counter).deck.size = length :=
    synchronizer.size_shuffleDeck length
  simp only [Synchronizer.needsDeck, sameKind, size, bne_self_eq_false, Bool.false_or]
  rfl

/-- Between two rounds the deck is used up. -/
theorem needsDeck_advanced_deck (positive : 0 < length) (seed : UInt64) (round : Nat) :
    (advanced .deck length seed (round * length)).kind = .deck ∧
      (advanced .deck length seed (round * length)).needsDeck length = true := by
  induction round with
  | zero =>
      refine ⟨by rw [Nat.zero_mul]; rfl, ?_⟩
      rw [Nat.zero_mul]
      simp [advanced, Synchronizer.advanceBy, Synchronizer.needsDeck, Synchronizer.fresh]
  | succ round inductionHypothesis =>
      obtain ⟨kind, usedUp⟩ := inductionHypothesis
      obtain ⟨last, rfl⟩ := Nat.exists_eq_add_one_of_ne_zero (Nat.ne_of_gt positive)
      have dealt := Synchronizer.advance_advanceBy (.inl kind) usedUp last fun counter _ upTo => by
        rw [needsDeck_dealing_deck kind]
        exact decide_eq_false (by omega)
      have behind : advanced .deck (last + 1) seed ((round + 1) * (last + 1)) =
          (advanced .deck (last + 1) seed (round * (last + 1))).dealing (last + 1) (last + 1) := by
        rw [advanced, Nat.succ_mul, Synchronizer.advanceBy_add, Synchronizer.advanceBy_succ]
        exact congrArg Prod.snd dealt
      rw [behind]
      refine ⟨kind, ?_⟩
      rw [needsDeck_dealing_deck kind]
      exact decide_eq_true (Nat.le_refl _)

/-- The choices of a round are those of the deck that is shuffled for it. -/
theorem streamOf_deck (positive : 0 < length) (seed : UInt64) (round : Nat) {place : Nat}
    (inside : place < length) :
    streamOf .deck length seed (round * length + place) =
      ((advanced .deck length seed (round * length)).shuffleDeck length).deck.getD place 0 := by
  obtain ⟨kind, usedUp⟩ := needsDeck_advanced_deck positive seed round
  have dealt := Synchronizer.advance_advanceBy (.inl kind) usedUp place fun counter _ upTo => by
    rw [needsDeck_dealing_deck kind]
    exact decide_eq_false (by omega)
  rw [streamOf, advanced, Synchronizer.advanceBy_add]
  have choice := congrArg Prod.fst dealt
  rwa [Nat.mod_eq_of_lt inside] at choice

/-! ### Decks that are shuffled once -/

/-- A cyclic deck always deals what its only shuffle has put at its places. -/
theorem streamOf_cyclicDeck (positive : 0 < length) (seed : UInt64) (place : Nat) :
    streamOf .cyclicDeck length seed place =
      ((Synchronizer.fresh .cyclicDeck seed).shuffleDeck length).deck.getD (place % length) 0 := by
  have starts : (Synchronizer.fresh .cyclicDeck seed).needsDeck length = true := by
    simp [Synchronizer.needsDeck, Synchronizer.fresh, Nat.ne_of_lt positive]
  have lasts (counter : Nat) :
      ((Synchronizer.fresh .cyclicDeck seed).dealing length counter).needsDeck length = false := by
    have size := (Synchronizer.fresh .cyclicDeck seed).size_shuffleDeck length
    show (_ != length) = false
    exact bne_eq_false_iff_eq.mpr size
  have dealt := Synchronizer.advance_advanceBy (.inr rfl) starts place fun counter _ _ =>
    lasts counter
  exact congrArg Prod.fst dealt

end Rounds

/-- In each round a deck deals every index below the length once; a cyclic deck does so in its first
round, and repeats it. -/
theorem deals_fairly (seed : UInt64) (length : Nat) :
    (∀ round, ((List.range length).map fun place =>
        Synchronizer.choiceAt .deck length seed (round * length + place)).Perm
          (List.range length)) ∧
      ((List.range length).map (Synchronizer.choiceAt .cyclicDeck length seed)).Perm
        (List.range length) ∧
      ∀ place, Synchronizer.choiceAt .cyclicDeck length seed (place + length) =
        Synchronizer.choiceAt .cyclicDeck length seed place := by
  obtain rfl | positive := Nat.eq_zero_or_pos length
  · simp
  refine ⟨fun round => ?_, ?_, fun place => ?_⟩
  · have dealt : ∀ place ∈ List.range length,
        Synchronizer.choiceAt .deck length seed (round * length + place) =
          ((advanced .deck length seed (round * length)).shuffleDeck length).deck.getD place 0 := by
      intro place inside
      rw [choiceAt_eq .deck seed positive]
      exact streamOf_deck positive seed round (List.mem_range.mp inside)
    rw [List.map_congr_left dealt]
    exact Synchronizer.perm_shuffleDeck _ length
  · have dealt : ∀ place ∈ List.range length,
        Synchronizer.choiceAt .cyclicDeck length seed place =
          ((Synchronizer.fresh .cyclicDeck seed).shuffleDeck length).deck.getD place 0 := by
      intro place inside
      rw [choiceAt_eq .cyclicDeck seed positive, streamOf_cyclicDeck positive,
        Nat.mod_eq_of_lt (List.mem_range.mp inside)]
    rw [List.map_congr_left dealt]
    exact Synchronizer.perm_shuffleDeck _ length
  · rw [choiceAt_eq .cyclicDeck seed positive, choiceAt_eq .cyclicDeck seed positive,
      streamOf_cyclicDeck positive, streamOf_cyclicDeck positive, Nat.add_mod_right]

end SeededText.Choice
