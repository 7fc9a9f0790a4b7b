import SeededText.Machine.Replacement

/-!
Contract: the matches in a text are ranges of it, from left to right, that do not overlap.

A thread of the machine starts somewhere in the text and goes on by one place for each character it
reads, so where it stops is not before its start and not behind the text. The search for the next
match starts where the match before stops. So the text is cut into the matches and what stands
between them, and a replacement that puts the cuts together again, with other texts for the matches,
changes nothing else.

Owns: places of threads, the order of matches, texts with ranges replaced.
Does not own: which matches there are (`SeededText.Regex.Matcher`), the run of a replacer
(`SeededText.Proofs.Replacing`).
-/

namespace SeededText

namespace Regex

/-! ### Places of threads -/

/-- A place of a text that is not before `low`. -/
def IsWithin (low : Nat) (text : Array Char) (place : Nat) : Prop :=
  low ≤ place ∧ place ≤ text.size

/-- What an attempt gives lies within the text. -/
def Attempt.Within (low : Nat) (text : Array Char) : Attempt → Prop
  | .matched stop _ => IsWithin low text stop
  | .further threads => ∀ thread ∈ threads, IsWithin low text thread.place

section Threads

variable {program : Program} {text : Array Char} {low stop : Nat} {slots : Slots}

theorem attempt_within {thread : Thread} (within : IsWithin low text thread.place) :
    (attempt program text thread).Within low text := by
  unfold attempt
  split
  · exact nofun
  · split
    · exact nofun
    · next character read =>
        obtain ⟨inside, -⟩ := Array.getElem?_eq_some_iff.mp read
        intro next member
        split at member
        · obtain rfl := List.mem_singleton.mp member
          exact ⟨Nat.le_succ_of_le within.1, inside⟩
        · cases member
  · intro next member
    split at member
    · obtain rfl := List.mem_singleton.mp member
      exact within
    · cases member
  · intro next member
    obtain rfl := List.mem_singleton.mp member
    exact within
  · intro next member
    rcases List.mem_cons.mp member with rfl | last
    · exact within
    · obtain rfl := List.mem_singleton.mp last
      exact within
  · exact within

/-- Threads that start within a text stop within it. -/
theorem explore_within {steps : Nat} {threads : List Thread} {visited marked : Visited}
    (within : ∀ thread ∈ threads, IsWithin low text thread.place)
    (explored : explore program text steps threads visited = (some (stop, slots), marked)) :
    IsWithin low text stop := by
  induction steps generalizing threads visited with
  | zero => cases explored
  | succ steps inductionHypothesis =>
      cases threads with
      | nil => cases explored
      | cons thread others =>
          obtain ⟨first, rest⟩ := List.forall_mem_cons.mp within
          rw [explore] at explored
          dsimp only at explored
          split at explored
          · exact inductionHypothesis rest explored
          · have attempted : (attempt program text thread).Within low text := attempt_within first
            split at explored
            · next matched =>
                rw [matched] at attempted
                cases explored
                exact attempted
            · next threads further =>
                rw [further] at attempted
                apply inductionHypothesis _ explored
                intro thread member
                rcases List.mem_append.mp member with new | old
                · exact attempted thread new
                · exact rest thread old

end Threads

/-! ### Matches in order -/

/-- Ranges of a text of the given size, each from where the one before stops or further on. -/
inductive InOrder (size : Nat) : Nat → List Match → Prop where
  | none {place : Nat} (inside : place ≤ size) : InOrder size place []
  | next {place : Nat} {found : Match} {others : List Match} (start : place ≤ found.start)
      (stop : found.start ≤ found.stop) (behind : InOrder size found.stop others) :
      InOrder size place (found :: others)

theorem InOrder.place_le {size place : Nat} {ranges : List Match}
    (ordered : InOrder size place ranges) : place ≤ size := by
  induction ordered with
  | none inside => exact inside
  | next start stop _ inductionHypothesis => omega

section Matches

variable {regex : Regex} {text : Array Char} {start : Nat} {found : Match}

/-- A match starts at one of the places where it is looked for, and stops within the text. -/
theorem firstMatch_within {starts : Nat} {visited : Visited}
    (inside : start + starts ≤ text.size + 1)
    (matched : regex.firstMatch text starts start visited = some found) :
    start ≤ found.start ∧ found.start ≤ found.stop ∧ found.stop ≤ text.size := by
  induction starts generalizing start visited with
  | zero => cases matched
  | succ starts inductionHypothesis =>
      rw [firstMatch] at matched
      split at matched
      · next stop slots marked explored =>
          cases matched
          have within : IsWithin start text stop := by
            apply explore_within _ explored
            intro thread member
            obtain rfl := List.mem_singleton.mp member
            refine ⟨Nat.le_refl start, ?_⟩
            show start ≤ text.size
            omega
          exact ⟨Nat.le_refl start, within⟩
      · have later := inductionHypothesis (by omega) matched
        exact ⟨by omega, later.2⟩

theorem matchFrom_within (inside : start ≤ text.size + 1)
    (matched : regex.matchFrom text start = some found) :
    start ≤ found.start ∧ found.start ≤ found.stop ∧ found.stop ≤ text.size := by
  unfold matchFrom at matched
  exact firstMatch_within (by omega) matched

theorem inOrder_matchesFrom (rounds : Nat) (previousStop? : Option Nat)
    (inside : start ≤ text.size) :
    InOrder text.size start (regex.matchesFrom text rounds start previousStop?) := by
  induction rounds generalizing start previousStop? with
  | zero => exact .none inside
  | succ rounds inductionHypothesis =>
      rw [matchesFrom]
      split
      · exact .none inside
      · next found chosen =>
          have within : start ≤ found.start ∧ found.start ≤ found.stop ∧
              found.stop ≤ text.size := by
            split at chosen
            · next first matched =>
                split at chosen
                · have further := matchFrom_within (by omega) chosen
                  exact ⟨by omega, further.2⟩
                · cases chosen
                  exact matchFrom_within (by omega) matched
            · cases chosen
          exact .next within.1 within.2.1 (inductionHypothesis _ within.2.2)

/-- All matches in a text are ranges of it, from left to right, that do not overlap. -/
theorem inOrder_allMatches (regex : Regex) (text : List Char) :
    InOrder text.length 0 (regex.allMatches text) :=
  inOrder_matchesFrom _ none (Nat.zero_le text.length)

end Matches

/-! ### Texts with ranges replaced -/

/-- Characters that stand at a place of a text, and the same with a text in place of each range. -/
inductive Replaced : Nat → List Char → List (Match × String) → List Char → Prop where
  | rest {place : Nat} {characters : List Char} : Replaced place characters [] characters
  | range {place : Nat} {before inside behind printed : List Char} {found : Match} {text : String}
      {others : List (Match × String)} (start : found.start = place + before.length)
      (stop : found.stop = found.start + inside.length)
      (replaced : Replaced found.stop behind others printed) :
      Replaced place (before ++ (inside ++ behind)) ((found, text) :: others)
        (before ++ (text.toList ++ printed))

end Regex

namespace Machine

open Regex MatchData

/-- What stands between the matches from a place of a text on, with a text for each match. -/
def spliced (text : Array Char) : Nat → List (Match × String) → String
  | place, [] => sliceText text place text.size
  | place, (found, made) :: others =>
      sliceText text place found.start ++ (made ++ spliced text found.stop others)

section Splicing

variable {text : Array Char} {place start stop : Nat} {pairs : List (Match × String)}

theorem MatchData.toList_sliceText (text : Array Char) (start stop : Nat) :
    (sliceText text start stop).toList = (text.toList.drop start).take (stop - start) := by
  rw [sliceText, String.toList_ofList, Array.toList_extract, List.extract_eq_take_drop]

theorem MatchData.length_sliceText (inside : stop ≤ text.size) :
    (sliceText text start stop).toList.length = stop - start := by
  rw [toList_sliceText, List.length_take, List.length_drop, Array.length_toList]
  omega

/-- What stands from a place on begins with any slice from there. -/
theorem MatchData.sliceText_append (order : start ≤ stop) :
    (sliceText text start stop).toList ++ text.toList.drop stop = text.toList.drop start := by
  have further : text.toList.drop stop = (text.toList.drop start).drop (stop - start) := by
    rw [List.drop_drop, Nat.add_sub_cancel' order]
  rw [toList_sliceText, further, List.take_append_drop]

theorem toList_spliced_nil (text : Array Char) (place : Nat) :
    (spliced text place []).toList = text.toList.drop place := by
  have short : (text.toList.drop place).length ≤ text.size - place :=
    Nat.le_of_eq List.length_drop
  rw [spliced, toList_sliceText, List.take_of_length_le short]

/-- Only the matches are replaced, each by its text. -/
theorem replaced_spliced (ordered : InOrder text.size place (pairs.map Prod.fst)) :
    Replaced place (text.toList.drop place) pairs (spliced text place pairs).toList := by
  induction pairs generalizing place with
  | nil =>
      rw [toList_spliced_nil]
      exact .rest
  | cons pair pairs inductionHypothesis =>
      obtain ⟨found, made⟩ := pair
      cases ordered with
      | next start stop behind =>
          simp only at start stop
          have inside : found.stop ≤ text.size := behind.place_le
          have before : (sliceText text place found.start).toList.length =
              found.start - place := length_sliceText (Nat.le_trans stop inside)
          have matched : (sliceText text found.start found.stop).toList.length =
              found.stop - found.start := length_sliceText inside
          rw [← sliceText_append start, ← sliceText_append stop, spliced, String.toList_append,
            String.toList_append]
          apply Replaced.range
          · omega
          · omega
          · exact inductionHypothesis behind

/-- Matches that are replaced by their own texts leave the text as it is. -/
theorem toList_spliced_own (ordered : InOrder text.size place (pairs.map Prod.fst))
    (own : ∀ pair ∈ pairs, pair.2 = sliceText text pair.1.start pair.1.stop) :
    (spliced text place pairs).toList = text.toList.drop place := by
  induction pairs generalizing place with
  | nil => exact toList_spliced_nil text place
  | cons pair pairs inductionHypothesis =>
      obtain ⟨found, made⟩ := pair
      obtain ⟨first, others⟩ := List.forall_mem_cons.mp own
      obtain rfl : made = sliceText text found.start found.stop := first
      cases ordered with
      | next start stop behind =>
          rw [spliced, String.toList_append, String.toList_append,
            inductionHypothesis behind others, sliceText_append stop, sliceText_append start]

end Splicing

end Machine

end SeededText
